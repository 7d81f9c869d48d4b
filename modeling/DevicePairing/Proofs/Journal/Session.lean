/-
What a writer does to the lines of its journal.

Opening reads the lines and leaves them as they are; handing in an
outcome adds its line to the text, or nothing if it has no line; closing
adds nothing. Tables come and go beside that. `Ready` is what all of this
rests on: the lines of the writer can be written to, and its table is
another file.
-/
import DevicePairing.Proofs.Journal.Files
import DevicePairing.Proofs.Journal.Line

namespace DevicePairing.Journal

open DevicePairing.Path (IsName)

-- ================================================================ names

theorem not_slash_ofInt (n : Int) : CodePoint.char '/' ∉ Text.ofInt n := by
  rw [Text.ofInt_eq, List.mem_append, not_or]
  refine ⟨?_, Text.not_mem_ofNat rfl _⟩
  split <;> decide

theorem not_slash_twoDigits (n : Nat) :
    CodePoint.char '/' ∉ Moment.twoDigits n := by
  have hdigit : ∀ d < 10, CodePoint.char '/' ≠ .char (Char.ofNat (48 + d)) := by
    decide
  unfold Moment.twoDigits
  simp only [List.mem_cons, List.not_mem_nil, or_false, not_or]
  exact ⟨hdigit _ (Nat.mod_lt _ (by omega)), hdigit _ (Nat.mod_lt _ (by omega))⟩

theorem not_slash_stamp (m : Moment) : CodePoint.char '/' ∉ m.stamp := by
  have hmid : CodePoint.char '/' ∉ Text.ofString "_" := by decide
  show CodePoint.char '/' ∉ Text.ofInt m.year ++ Moment.twoDigits m.month
    ++ Moment.twoDigits m.day ++ Text.ofString "_" ++ Moment.twoDigits m.hour
    ++ Moment.twoDigits m.minute ++ Moment.twoDigits m.second
  have htwo := not_slash_twoDigits
  simp only [List.mem_append, not_or]
  exact ⟨⟨⟨⟨⟨⟨not_slash_ofInt _, htwo _⟩, htwo _⟩, hmid⟩, htwo _⟩, htwo _⟩,
    htwo _⟩

/-- The name of a table, between its parts. -/
theorem eq_of_tableName {m : Moment} {firstId : Int} {name : Text}
    (h : tableName m firstId = .ok name) :
    name = Text.ofString "attempts_" ++ m.stamp ++ Text.ofString "_"
      ++ Text.ofInt firstId ++ Text.ofString ".parquet" := by
  delta tableName at h
  cases hdigits : Numeral.integerText? firstId with
  | none =>
      rw [hdigits] at h
      cases h
  | some digits =>
      rw [hdigits] at h
      rw [← Except.ok.inj h, Numeral.integerText?_eq_some hdigits]

/-- The name of a table is a name, and not that of the lines. -/
theorem isName_tableName {m : Moment} {firstId : Int} {name : Text}
    (h : tableName m firstId = .ok name) :
    IsName name ∧ name ≠ Text.ofString "attempts.jsonl" := by
  rw [eq_of_tableName h]
  refine ⟨⟨?_, ?_, ?_, ?_⟩, ?_⟩
  · exact fun h => by cases h
  · have h1 : CodePoint.char '/' ∉ Text.ofString "attempts_" := by decide
    have h2 : CodePoint.char '/' ∉ Text.ofString "_" := by decide
    have h3 : CodePoint.char '/' ∉ Text.ofString ".parquet" := by decide
    simp only [List.mem_append, not_or]
    exact ⟨⟨⟨⟨h1, not_slash_stamp m⟩, h2⟩, not_slash_ofInt _⟩, h3⟩
  · exact fun h => by cases h
  · exact fun h => by cases h
  · exact fun h => by cases h

theorem isName_lines : IsName (Text.ofString "attempts.jsonl") :=
  ⟨by decide, by decide, by decide, by decide⟩

theorem place_linesPath (directory : Text) :
    Path.place (linesPath directory)
      = Path.place directory ++ [Text.ofString "attempts.jsonl"] :=
  Path.place_child isName_lines directory

-- ================================================================ ready

/-- A writer whose lines can be written to and hold a text, and whose
table is another file beside them. -/
structure Ready (w : Writer) (s : Store) (t : Text) : Prop where
  holds : s.Holds (linesPath w.directory) t
  free : s.isDirectory (Path.place (linesPath w.directory)) = false
  table : ∃ name, w.tablePath = Path.child w.directory name ∧ IsName name
    ∧ name ≠ Text.ofString "attempts.jsonl"

variable {w : Writer} {s : Store} {t : Text}

/-- The lines and the table lie side by side. -/
theorem beside {directory name : Text} (hname : IsName name)
    (hne : name ≠ Text.ofString "attempts.jsonl") :
    Path.place (linesPath directory) ≠ Path.place (Path.child directory name)
      ∧ (Path.place (Path.child directory name)).length
        = (Path.place (linesPath directory)).length := by
  rw [place_linesPath, Path.place_child hname]
  constructor
  · intro h
    have h := List.append_cancel_left h
    cases h
    exact hne rfl
  · simp

/-- Whatever is put at the table leaves the lines as they are. -/
theorem holds_put_table (directory : Text) {name : Text} (hname : IsName name)
    (hne : name ≠ Text.ofString "attempts.jsonl") (c : Content) :
    (s.put (Path.place (Path.child directory name)) c).file?
          (Path.place (linesPath directory))
        = s.file? (Path.place (linesPath directory))
      ∧ (s.put (Path.place (Path.child directory name)) c).isDirectory
          (Path.place (linesPath directory))
        = s.isDirectory (Path.place (linesPath directory)) :=
  ⟨Store.file?_put_of_ne s (beside hname hne).1 c,
    Store.isDirectory_put s (Nat.le_of_eq (beside hname hne).2) c⟩

/-- Writing to the table leaves the lines as they are. -/
theorem Ready.writePiece (h : Ready w s t) (span : Span) (piece : Piece) :
    Ready w (s.writePiece w.tablePath span piece) t := by
  obtain ⟨holds, free, name, htable, hname, hne⟩ := h
  rw [Store.writePiece, htable]
  split
  · rename_i c _
    obtain ⟨hfile, hdirectory⟩ :=
      holds_put_table (s := s) w.directory hname hne
        (.table ((span, piece) :: c.layers))
    refine ⟨?_, hdirectory.trans free, name, htable, hname, hne⟩
    rw [Store.Holds, hfile]
    exact holds
  · exact ⟨holds, free, name, htable, hname, hne⟩

theorem Ready.writeRow (h : Ready w s t) (r : Row) :
    Ready (w.writeRow s r).1 (w.writeRow s r).2 t :=
  have hrow := h.writePiece (.ofRow w.rows r) (.row r)
  ⟨hrow.holds, hrow.free, hrow.table⟩

/-- Text that is added to the lines stands behind what they held. -/
theorem Ready.appendBytes (h : Ready w s t) (l : Text) :
    let s' := s.put (Path.place (linesPath w.directory)) (.bytes (t ++ l).utf8)
    s.appendBytes (linesPath w.directory) l.utf8 = .ok s'
      ∧ Ready w s' (t ++ l) := by
  obtain ⟨holds, free, htable⟩ := h
  have hutf8 : (t ++ l).utf8 = t.utf8 ++ l.utf8 := List.flatMap_append
  constructor
  · rw [Store.appendBytes, free, if_neg Bool.false_ne_true, hutf8]
    rcases holds with h | ⟨h, rfl⟩
    · rw [h]
    · rw [h]
      rfl
  · refine ⟨.inl (Store.file?_put_self s _ _), ?_, htable⟩
    rw [Store.isDirectory_put s (Nat.le_refl _)]
    exact free

-- ============================================================== opening

/-- The table of a new writer, and what it does to the store. -/
theorem openTable_eq_ok {s' : Store} {directory : Text} {time : Json} {n : Int}
    (h : openTable s directory time n = .ok (w, s')) :
    ∃ m name, tableName m n = .ok name
      ∧ w = ⟨directory, n, Path.child directory name, [], true⟩
      ∧ s' = s.newTable (Path.child directory name) := by
  unfold openTable at h
  obtain ⟨m, -, h⟩ := bind_eq_ok.mp h
  obtain ⟨name, hname, h⟩ := bind_eq_ok.mp h
  dsimp only at h
  split at h
  · cases h
  split at h
  · cases h
  · cases h
    exact ⟨m, name, hname, rfl, rfl⟩

theorem free_of_scan {path : Text} (h : (scan s path).fault = none) :
    s.isDirectory (Path.place path) = false := by
  rw [scan] at h
  split at h
  · cases h
  · exact Bool.eq_false_iff.mpr ‹_›

/-- A writer that is opened has read the lines it will add to, and leaves
them as they are. -/
theorem openAt_ready {s' : Store} {directory : Text} {time : Json}
    {log : List Text} (h : openAt s directory time = (⟨.ok w, log⟩, s'))
    (hold : s.Holds (linesPath directory) t) (ht : t.IsScalar) :
    (scanLines (linesPath directory) 0 t.lines).fault = none
      ∧ w.nextId = (scanLines (linesPath directory) 0 t.lines).last + 1
      ∧ w.directory = directory
      ∧ Ready w s' t := by
  unfold openAt at h
  have hfiles := Store.files_makeDirectory s directory
  generalize s.makeDirectory directory = made at h hfiles
  obtain ⟨result, s₁⟩ := made
  cases result with
  | error f => cases h
  | ok _ =>
      have hold₁ : s₁.Holds (linesPath directory) t := by
        rw [Store.Holds, Store.file?, hfiles]
        exact hold
      dsimp only at h
      split at h
      · cases h
      rename_i hfault
      have hfree := free_of_scan hfault
      rw [scan_of_holds ht hold₁ hfree] at h hfault
      split at h
      · cases h
      rename_i w' s₂ htable
      cases h
      obtain ⟨m, name, hname, rfl, rfl⟩ := openTable_eq_ok htable
      obtain ⟨hname, hne⟩ := isName_tableName hname
      obtain ⟨hfile, hdirectory⟩ :=
        holds_put_table (s := s₁) directory hname hne
          (.table [(.mark, .other)])
      refine ⟨hfault, rfl, rfl, ?_, hdirectory.trans hfree, name, rfl, hname,
        hne⟩
      rw [Store.Holds, Store.newTable, hfile]
      exact hold₁

-- ============================================================ handing in

/-- What an entry adds to the lines: its line, if it has one. -/
def Entry.added (e : Entry) (id : Int) : Text :=
  if e.HasLine id then (e.attempt id).line else []

/-- What writing comes to: the lines are put with what the attempt adds, and if
that is a line, the row is written while the writer is open. -/
theorem write_eq (h : Ready w s t) (a : Attempt) :
    let added := a.line?.toOption.getD []
    let s₁ :=
      s.put (Path.place (linesPath w.directory)) (.bytes (t ++ added).utf8)
    Ready w s₁ (t ++ added)
      ∧ w.write s a
        = match a.line? with
          | .error f => (.error f, w, s₁)
          | .ok _ =>
            if w.isOpen then
              match a.row with
              | .error f => (.error f, w, s₁)
              | .ok r => (.ok a.id, w.writeRow s₁ r)
            else (.ok a.id, w, s₁) := by
  obtain ⟨happend, hready⟩ := h.appendBytes (a.line?.toOption.getD [])
  refine ⟨hready, ?_⟩
  unfold Writer.write
  generalize a.line? = line at happend ⊢
  generalize a.row = row
  cases line with
  | error f => simp only [happend]
  | ok line =>
      cases row with
      | error f => simp only [happend]
      | ok r => simp only [happend]

/-- What handing in comes to: the lines are put with what the entry adds, and
if that is a line, the row is written while the writer is open. -/
theorem append_eq (h : Ready w s t) (e : Entry) :
    let s₁ := s.put (Path.place (linesPath w.directory))
      (.bytes (t ++ e.added w.nextId).utf8)
    Ready w.advance s₁ (t ++ e.added w.nextId)
      ∧ w.append s (.str e.uniqueId) e.outcome.report (.float e.time)
        = if e.HasLine w.nextId then
            if w.isOpen then
              match (e.attempt w.nextId).row with
              | .error f => (.error f, w.advance, s₁)
              | .ok r => (.ok w.nextId, w.advance.writeRow s₁ r)
            else (.ok w.nextId, w.advance, s₁)
          else (.error ⟨.value, Numeral.tooLongToWrite⟩, w.advance, s₁) := by
  have hadvance : Ready w.advance s t := ⟨h.holds, h.free, h.table⟩
  obtain ⟨hready, hwrite⟩ := write_eq hadvance (e.attempt w.nextId)
  rw [Writer.append, Entry.ofReport_eq]
  unfold Entry.added
  by_cases hline : e.HasLine w.nextId
  · have hok : (e.attempt w.nextId).line? = .ok (e.attempt w.nextId).line :=
      if_pos hline
    simp only [hok, Except.toOption, Option.getD_some] at hready hwrite
    simp only [if_pos hline]
    exact ⟨hready, hwrite⟩
  · have herror : (e.attempt w.nextId).line?
        = .error ⟨.value, Numeral.tooLongToWrite⟩ := if_neg hline
    simp only [herror, Except.toOption, Option.getD_none] at hready hwrite
    simp only [if_neg hline]
    exact ⟨hready, hwrite⟩

/-- Handing in an outcome uses up a number and adds a line to the text, if
there is one. Only a number whose line is there is given back. -/
theorem append_ready (h : Ready w s t) (e : Entry) :
    let x := w.append s (.str e.uniqueId) e.outcome.report (.float e.time)
    (∀ id, x.1 = .ok id → id = w.nextId ∧ e.HasLine w.nextId)
      ∧ x.2.1.nextId = w.nextId + 1
      ∧ x.2.1.directory = w.directory
      ∧ Ready x.2.1 x.2.2 (t ++ e.added w.nextId) := by
  intro x
  obtain ⟨hready, hx⟩ := append_eq h e
  generalize s.put _ _ = s₁ at hready hx
  change x = _ at hx
  rw [hx]
  by_cases hline : e.HasLine w.nextId
  · have hid (id : Int) (heq : Except.ok (ε := Fault) w.nextId = .ok id) :
        id = w.nextId ∧ e.HasLine w.nextId := ⟨(Except.ok.inj heq).symm, hline⟩
    rw [if_pos hline]
    split
    · split
      · refine ⟨?_, rfl, rfl, hready⟩
        intro id heq
        cases heq
      · exact ⟨hid, rfl, rfl, hready.writeRow _⟩
    · exact ⟨hid, rfl, rfl, hready⟩
  · rw [if_neg hline]
    refine ⟨?_, rfl, rfl, hready⟩
    intro id heq
    cases heq

-- ========================================================= one after the other

/-- Hand in outcomes one after the other. -/
def Writer.appendAll (w : Writer) (s : Store) :
    List Entry → List (Except Fault Int) × Writer × Store
  | [] => ([], w, s)
  | e :: es =>
    let (result, w, s) :=
      w.append s (.str e.uniqueId) e.outcome.report (.float e.time)
    let (results, w, s) := w.appendAll s es
    (result :: results, w, s)

/-- The attempts that have lines, when outcomes are handed in one after the
other and numbered from `id` on. -/
def attemptsFrom (id : Int) : List Entry → List Attempt
  | [] => []
  | e :: es =>
    if e.HasLine id then e.attempt id :: attemptsFrom (id + 1) es
    else attemptsFrom (id + 1) es

/-- The lines of attempts. -/
def linesOf (attempts : List Attempt) : Text := attempts.flatMap Attempt.line

/-- After outcomes were handed in, the lines of their attempts stand behind
the text, and every number that was given back is that of one of them. -/
theorem appendAll_ready (h : Ready w s t) (es : List Entry) :
    let x := w.appendAll s es
    (∀ id, .ok id ∈ x.1 → ∃ a ∈ attemptsFrom w.nextId es, a.id = id)
      ∧ x.2.1.directory = w.directory
      ∧ Ready x.2.1 x.2.2 (t ++ linesOf (attemptsFrom w.nextId es)) := by
  induction es generalizing w s t with
  | nil =>
      exact ⟨fun id hid => absurd hid List.not_mem_nil, rfl,
        (List.append_nil t).symm ▸ h⟩
  | cons e es ih =>
      obtain ⟨hid, hnext, hdirectory, hready⟩ := append_ready h e
      unfold Writer.appendAll
      generalize w.append s (.str e.uniqueId) e.outcome.report (.float e.time)
        = x at *
      obtain ⟨result, w₁, s₁⟩ := x
      obtain ⟨hids, hdirectory', hready'⟩ := ih hready
      dsimp only at hid hnext hdirectory hids hdirectory' hready'
      rw [hnext] at hids hready'
      unfold attemptsFrom
      dsimp only
      generalize w₁.appendAll s₁ es = y at *
      obtain ⟨results, w₂, s₂⟩ := y
      refine ⟨?_, hdirectory'.trans hdirectory, ?_⟩
      · intro id hmem
        rcases List.mem_cons.mp hmem with heq | hmem
        · obtain ⟨rfl, hline⟩ := hid id heq.symm
          rw [if_pos hline]
          exact ⟨_, List.mem_cons_self, rfl⟩
        · obtain ⟨a, ha, rfl⟩ := hids id hmem
          refine ⟨a, ?_, rfl⟩
          split
          · exact List.mem_cons_of_mem _ ha
          · exact ha
      · rw [List.append_assoc, Entry.added] at hready'
        split
        · rw [if_pos ‹_›] at hready'
          exact hready'
        · rw [if_neg ‹_›] at hready'
          exact hready'

theorem directory_close (w : Writer) (s : Store) :
    (w.close s).1.directory = w.directory := by
  unfold Writer.close
  split <;> rfl

/-- Closing a writer leaves the lines as they are. -/
theorem close_ready (h : Ready w s t) :
    Ready (w.close s).1 (w.close s).2 t := by
  unfold Writer.close
  split
  · have hindex := h.writePiece (.ofIndex w.rows) (.index w.rows)
    exact ⟨hindex.holds, hindex.free, hindex.table⟩
  · exact h

end DevicePairing.Journal
