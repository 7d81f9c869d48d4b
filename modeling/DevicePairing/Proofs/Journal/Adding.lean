/-
What handing in an outcome adds to the lines.

Whatever a writer has been through, its lines and its table lie side by
side in its directory, since only opening chooses where they are. So the
only thing that is ever added to the lines is the line of an outcome, and
the only question is whether it is added. It is if handing in comes to
its end, and also if it fails for the row alone: the line was there before
the row was tried. A failure of any other kind has added nothing.

The line is printable ASCII up to its end, however the texts in it look,
and it is read back as what it was written for.
-/
import DevicePairing.Proofs.Journal.Outcomes

namespace DevicePairing.Journal

open DevicePairing.Path (IsName)

-- =============================================================== writers

/-- A writer that was opened in a directory, and has been handed anything
and been closed any number of times since, whatever became of the store in
between. -/
inductive Writer.Used (directory : Text) : Writer → Prop
  | opened {s s' : Store} {time : Json} {log : List Text} {w : Writer}
      (h : openAt s directory time = (⟨.ok w, log⟩, s')) : Used directory w
  | appended {w : Writer} (h : Used directory w) (s : Store) (uniqueId : Json)
      (report : Report) (time : Json) :
      Used directory (w.append s uniqueId report time).2.1
  | closed {w : Writer} (h : Used directory w) (s : Store) :
      Used directory (w.close s).1

variable {w : Writer} {s : Store} {t directory : Text} {e : Entry} {n : Int}

namespace Writer

/-- Handing in leaves a writer where it is. -/
theorem append_paths (w : Writer) (s : Store) (uniqueId : Json)
    (report : Report) (time : Json) :
    (w.append s uniqueId report time).2.1.directory = w.directory
      ∧ (w.append s uniqueId report time).2.1.tablePath = w.tablePath := by
  unfold append
  split
  · exact ⟨rfl, rfl⟩
  unfold write
  dsimp only
  split
  · exact ⟨rfl, rfl⟩
  split
  · exact ⟨rfl, rfl⟩
  split
  · split <;> exact ⟨rfl, rfl⟩
  · exact ⟨rfl, rfl⟩

theorem tablePath_close (w : Writer) (s : Store) :
    (w.close s).1.tablePath = w.tablePath := by
  unfold close
  split <;> rfl

/-- The table of a writer lies beside its lines. -/
theorem Used.beside (h : Used directory w) :
    w.directory = directory
      ∧ ∃ name, w.tablePath = Path.child directory name ∧ IsName name
        ∧ name ≠ Text.ofString "attempts.jsonl" := by
  induction h with
  | opened hopen =>
      obtain ⟨f, hf, -⟩ | ⟨w', m, name, hok, hname, hw, -⟩ := openAt_cases hopen
      · cases hf
      cases hok
      rw [hw]
      exact ⟨rfl, name, rfl, isName_tableName hname⟩
  | appended _ s uniqueId report time ih =>
      obtain ⟨hdirectory, htable⟩ := append_paths _ s uniqueId report time
      rw [hdirectory, htable]
      exact ih
  | closed _ s ih =>
      rw [directory_close, tablePath_close]
      exact ih

/-- So it can add to them, unless there is a directory in their place. -/
theorem Used.ready (h : Used directory w)
    (hold : s.Holds (linesPath directory) t)
    (hfree : s.isDirectory (Path.place (linesPath directory)) = false) :
    Ready w s t := by
  obtain ⟨rfl, hbeside⟩ := h.beside
  exact ⟨hold, hfree, hbeside⟩

end Writer

-- ============================================================ handing in

/-- Whether handing an entry in under a number came to its end, or failed for
the row alone. -/
def Entry.Lands (e : Entry) (n : Int) (result : Except Fault Int) : Prop :=
  (∃ id, result = .ok id)
    ∨ ∃ f, result = .error f ∧ (e.attempt n).row = .error f

theorem Entry.kind_of_statusColumn {o : Outcome} {f : Fault}
    (h : Attempt.statusColumn o.report.status = .error f) :
    f.kind = .overflow ∨ f.kind = .columnValue := by
  rw [Outcome.report] at h
  cases hstatus : o.status with
  | none =>
      rw [hstatus] at h
      cases h
  | some k =>
      rw [hstatus] at h
      simp only [Attempt.statusColumn] at h
      split at h
      · cases h
        exact .inl rfl
      split at h
      · cases h
      · cases h
        exact .inr rfl

/-- What keeps an entry with texts made of characters from becoming a row is a
number that does not fit. -/
theorem Entry.kind_of_row (hu : e.uniqueId.IsScalar)
    (hreason : e.outcome.reason.IsScalar) {f : Fault}
    (h : (e.attempt n).row = .error f) :
    f.kind = .overflow ∨ f.kind = .columnValue := by
  have hid : Attempt.textColumn (e.attempt n).uniqueId
      = .ok (some e.uniqueId) :=
    textColumn_eq_ok.mpr ⟨hu, rfl⟩
  have hreason : Attempt.textColumn (e.attempt n).reason
      = .ok (some e.outcome.reason) := textColumn_eq_ok.mpr ⟨hreason, rfl⟩
  unfold Attempt.row at h
  split at h
  · cases h
    exact .inl rfl
  cases hstatus : Attempt.statusColumn (e.attempt n).status with
  | ok status =>
      rw [hid, hstatus, hreason] at h
      cases h
  | error g =>
      rw [hid, hstatus] at h
      cases h
      exact kind_of_statusColumn hstatus

/-- Where a directory is in the place of the lines, nothing is added, and that
is no refusal of a row. -/
theorem append_of_isDirectory
    (hbusy : s.isDirectory (Path.place (linesPath w.directory)) = true)
    (hu : e.uniqueId.IsScalar) (hreason : e.outcome.reason.IsScalar) :
    let y := w.append s (.str e.uniqueId) e.outcome.report (.float e.time)
    ¬e.Lands w.nextId y.1 ∧ y.2.2 = s := by
  intro y
  let f :=
    Store.refusal .isDirectory 21 "Is a directory" (linesPath w.directory)
  have hbytes (b : Bytes) :
      s.appendBytes (linesPath w.advance.directory) b = .error f :=
    if_pos hbusy
  have hy : y = (.error f, w.advance, s) := by
    change w.append s (.str e.uniqueId) e.outcome.report (.float e.time) = _
    rw [Writer.append, Entry.ofReport_eq]
    show w.advance.write s (e.attempt w.nextId) = _
    simp only [Writer.write, hbytes]
  rw [hy]
  refine ⟨?_, rfl⟩
  rintro (⟨id, hid⟩ | ⟨g, hg, hrow⟩)
  · cases hid
  · cases hg
    obtain h | h := Entry.kind_of_row hu hreason hrow <;> cases h

/-- Where the lines can be written to, only a number with too many digits keeps
an outcome from them. -/
theorem lands_iff (hready : Ready w s t) (hu : e.uniqueId.IsScalar)
    (hreason : e.outcome.reason.IsScalar)
    (hstatus : ∀ k ∈ e.outcome.status, FewDigits k) :
    e.Lands w.nextId
        (w.append s (.str e.uniqueId) e.outcome.report (.float e.time)).1
      ↔ FewDigits w.nextId := by
  obtain ⟨-, happend⟩ := append_eq hready e
  have hline : e.HasLine w.nextId ↔ FewDigits w.nextId :=
    Entry.hasLine_iff.trans (and_iff_left hstatus)
  rw [happend]
  by_cases hdigits : FewDigits w.nextId
  · rw [if_pos (hline.mpr hdigits)]
    refine iff_of_true ?_ hdigits
    split
    · split
      · rename_i f hrow
        exact .inr ⟨f, rfl, hrow⟩
      · exact .inl ⟨_, rfl⟩
    · exact .inl ⟨_, rfl⟩
  · rw [if_neg (mt hline.mp hdigits)]
    refine iff_of_false ?_ hdigits
    rintro (⟨id, hid⟩ | ⟨f, hf, hrow⟩)
    · cases hid
    · cases hf
      obtain h | h := Entry.kind_of_row hu hreason hrow <;> cases h

/-- Behind lines that have their ends, the line of an entry is one line. -/
theorem Entry.lines_append_line (ht : t.IsEnded) (e : Entry) (n : Int) :
    (t ++ (e.attempt n).line).lines = t.lines ++ [(e.attempt n).line] := by
  have hhead : (e.attempt n).line.head? ≠ some (.char '\n') := by
    intro h
    cases h
  have hline : (e.attempt n).line.lines = [(e.attempt n).line] :=
    Text.lines_line (e.isUnbroken_body n) []
  rw [Text.lines_append ht hhead, hline]

/-- Whatever a writer has been through, and whatever the lines hold: let an
outcome be handed in, its texts made of characters and its status with not
too many digits. If that comes to its end, or fails for the row alone, then
one line is added behind the lines as they were. It is printable ASCII up to
the line feed at its end, it is read back with the number that was used up,
the device, the result, the status and the reason, and where every line had
its end it is one line for the reader. In all other cases nothing is added;
these are a directory in the place of the lines, and a number with too many
digits. -/
theorem append_adds_one_line (hw : Writer.Used directory w)
    (hold : s.Holds (linesPath directory) t) (hu : e.uniqueId.IsScalar)
    (hreason : e.outcome.reason.IsScalar)
    (hstatus : ∀ k ∈ e.outcome.status, FewDigits k) :
    let y := w.append s (.str e.uniqueId) e.outcome.report (.float e.time)
    (e.Lands w.nextId y.1
        ↔ s.isDirectory (Path.place (linesPath directory)) = false
          ∧ FewDigits w.nextId)
      ∧ (¬e.Lands w.nextId y.1 → y.2.2.Holds (linesPath directory) t)
      ∧ (e.Lands w.nextId y.1 → ∃ body : Text,
          let line := body ++ [.char '\n']
          body.IsPrintableAscii
            ∧ y.2.2.Holds (linesPath directory) (t ++ line)
            ∧ idOf? line = some w.nextId
            ∧ (∀ id, y.1 = .ok id → id = w.nextId)
            ∧ Tells e.uniqueId e.outcome w.nextId line
            ∧ (t.IsEnded → (t ++ line).lines = t.lines ++ [line])
            ∧ (t.IsEnded → t.IsScalar → linesAt y.2.2 (linesPath directory)
                = linesAt s (linesPath directory) ++ [line])) := by
  intro y
  obtain ⟨hdirectory, -⟩ := hw.beside
  -- the lines are opened before the outcome is written out, so a directory
  -- in their place comes first
  cases hbusy : s.isDirectory (Path.place (linesPath directory)) with
  | true =>
      obtain ⟨hnot, hsame⟩ :=
        append_of_isDirectory (w := w) (hdirectory.symm ▸ hbusy) hu hreason
      change ¬e.Lands w.nextId y.1 at hnot
      change y.2.2 = s at hsame
      rw [hsame]
      exact ⟨iff_of_false hnot fun h => Bool.noConfusion h.1, fun _ => hold,
        fun h => absurd h hnot⟩
  | false =>
      have hready : Ready w s t := hw.ready hold hbusy
      have hlands := lands_iff hready hu hreason hstatus
      obtain ⟨hid, -, hdirectory', hready'⟩ := append_ready hready e
      have hholds := hready'.holds
      rw [hdirectory', hdirectory] at hholds
      change y.2.2.Holds _ _ at hholds
      change e.Lands w.nextId y.1 ↔ _ at hlands
      refine ⟨hlands.trans (and_iff_right rfl).symm, fun hnot => ?_,
        fun hlanded => ?_⟩
      · have hno : ¬e.HasLine w.nextId :=
          fun h => hnot (hlands.mpr (Entry.hasLine_iff.mp h).1)
        rw [Entry.added, if_neg hno, List.append_nil] at hholds
        exact hholds
      · have hdigits : HasDigits e.outcome w.nextId :=
          ⟨hlands.mp hlanded, hstatus⟩
        have hline : e.HasLine w.nextId := hasLine_iff_hasDigits.mpr hdigits
        rw [Entry.added, if_pos hline] at hholds
        have hread : IsReadAs (e.attempt w.nextId)
            ([] ++ (e.attempt w.nextId).line) := Entry.isReadAs_line hline rfl
        refine ⟨e.body w.nextId, e.isPrintableAscii_body w.nextId, hholds,
          hread.1, fun id h => (hid id h).1, tells_line hu hreason hdigits,
          fun hended => e.lines_append_line hended _, fun hended ht => ?_⟩
        have ht' : (t ++ (e.attempt w.nextId).line).IsScalar :=
          List.forall_mem_append.mpr ⟨ht, (e.attempt w.nextId).isScalar_line⟩
        rw [linesAt_of_holds ht' hholds, linesAt_of_holds ht hold]
        exact e.lines_append_line hended _

/-- An outcome of a device whose name and reason have quotes, ends of lines and
characters beyond 16 bits in them. Its status fits no column, and no time was
taken. -/
def awkward : Entry :=
  ⟨"q\"\\\r\n\u2028😀", ⟨.failure, some 70000, "\x00\t\"é\"\n", .nan⟩, .zero⟩

/-- It is refused as a row by the first writer of a journal, and is the one
line there. -/
theorem append_adds_one_line_awkward :
    ∃ w log s, openAt ⟨[], []⟩ "log" (.int 0) = (⟨.ok w, log⟩, s)
      ∧ s.Holds (linesPath "log") [] ∧ awkward.uniqueId.IsScalar
      ∧ awkward.outcome.reason.IsScalar
      ∧ (∀ k ∈ awkward.outcome.status, FewDigits k)
      ∧ let y := w.append s (.str awkward.uniqueId) awkward.outcome.report
          (.float awkward.time)
        y.1.toOption = none
          ∧ ∃ body : Text, body.IsPrintableAscii
            ∧ y.2.2.Holds (linesPath "log") (body ++ [.char '\n'])
            ∧ Tells awkward.uniqueId awkward.outcome 1 (body ++ [.char '\n'])
            ∧ linesAt y.2.2 (linesPath "log") = [body ++ [.char '\n']] := by
  have hempty : Store.Holds ⟨[], []⟩ (linesPath "log") [] := .inr ⟨rfl, rfl⟩
  have hscalar : Text.IsScalar [] := Text.isScalar_ofString ""
  have hu : awkward.uniqueId.IsScalar := Text.isScalar_ofString _
  have hreason : awkward.outcome.reason.IsScalar := Text.isScalar_ofString _
  have hstatus : ∀ k ∈ awkward.outcome.status, FewDigits k := by decide +kernel
  let opened := openAt ⟨[], []⟩ "log" (.int 0)
  have hrefused : (opened.1.value.toOption.map fun w =>
      (w.append opened.2 (.str awkward.uniqueId) awkward.outcome.report
        (.float awkward.time)).1.toOption) = some none := by
    decide +kernel
  obtain ⟨⟨⟨result, log⟩, s⟩, hopen⟩ : ∃ x, opened = x := ⟨_, rfl⟩
  rw [hopen] at hrefused
  cases result with
  | error f => cases hrefused
  | ok w =>
      obtain ⟨-, hnext, hdirectory, hready⟩ :=
        openAt_ready hopen hempty hscalar
      have hnext : w.nextId = 1 := hnext
      have hold : s.Holds (linesPath "log") [] := hdirectory ▸ hready.holds
      have hfree := hready.free
      rw [hdirectory] at hfree
      have hdigits : FewDigits w.nextId := by
        rw [hnext]
        decide +kernel
      obtain ⟨hlands, -, hadds⟩ :=
        append_adds_one_line (.opened hopen) hold hu hreason hstatus
      obtain ⟨body, hascii, hholds, -, -, htells, -, hlines⟩ :=
        hadds (hlands.mpr ⟨hfree, hdigits⟩)
      have hended : Text.IsEnded [] := by
        intro p hp
        cases hp
      have hbefore : linesAt s (linesPath "log") = [] :=
        linesAt_of_holds hscalar hold
      refine ⟨w, log, s, hopen, hold, hu, hreason, hstatus,
        Option.some.inj hrefused, body, hascii, hholds, hnext ▸ htells, ?_⟩
      rw [hlines hended hscalar, hbefore]
      rfl

end DevicePairing.Journal
