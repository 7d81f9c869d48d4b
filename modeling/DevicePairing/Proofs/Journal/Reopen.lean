/-
A journal that is opened again.

A journal outlives its writer, and the writer after it numbers on from
what it can read. So whatever stands in the file when a writer is opened,
and also when the last line of it was cut off, the next writer should
find every record of this one, and use no number again.

# What is so, and what is not

A record is added where the text ends. If the text ends in the middle of
a line, the first record goes on that line. Behind spaces and tabs it is
read all the same. Behind anything else the two together are no document,
so the line is passed over and the record is lost; the others are read.
Their numbers are greater, so the number of the lost record is used again
only if it is the only one. The unfinished line itself need not have been
broken: if it is a record that only lacks its end, it is lost as well.

The theorem says just when the expectation is met: if nothing but spaces
and tabs was left unfinished.
-/
import DevicePairing.Proofs.Journal.Session

namespace DevicePairing.Journal

open Json.Reader (isGap)

-- ============================================================ attempts

/-- The attempts of entries are entries with lines, numbered from the first
number on. -/
theorem attempt_of_mem {id : Int} {es : List Entry} {a : Attempt}
    (h : a ∈ attemptsFrom id es) :
    ∃ (e : Entry) (n : Int), a = e.attempt n ∧ e.HasLine n ∧ id ≤ n := by
  induction es generalizing id with
  | nil => exact absurd h List.not_mem_nil
  | cons e es ih =>
      have hrest (h : a ∈ attemptsFrom (id + 1) es) :
          ∃ (e : Entry) (n : Int), a = e.attempt n ∧ e.HasLine n ∧ id ≤ n := by
        obtain ⟨e', n, ha, hline, hle⟩ := ih h
        exact ⟨e', n, ha, hline, by omega⟩
      unfold attemptsFrom at h
      split at h
      · rcases List.mem_cons.mp h with rfl | h
        · exact ⟨e, id, rfl, ‹_›, Int.le_refl id⟩
        · exact hrest h
      · exact hrest h

/-- The numbers of attempts rise. -/
theorem pairwise_attemptsFrom (id : Int) (es : List Entry) :
    (attemptsFrom id es).Pairwise fun a b => a.id < b.id := by
  induction es generalizing id with
  | nil => exact .nil
  | cons e es ih =>
      unfold attemptsFrom
      split
      · refine List.pairwise_cons.mpr ⟨?_, ih (id + 1)⟩
        intro a ha
        obtain ⟨e', n, rfl, -, hle⟩ := attempt_of_mem ha
        show id < n
        omega
      · exact ih (id + 1)

-- ================================================================ lines

/-- Attempts that have lines. -/
def HaveLines (as : List Attempt) : Prop :=
  ∀ a ∈ as, ∃ (e : Entry) (n : Int), a = e.attempt n ∧ e.HasLine n

variable {as : List Attempt}

theorem HaveLines.of_cons {a : Attempt} (h : HaveLines (a :: as)) :
    HaveLines as :=
  (List.forall_mem_cons.mp h).2

theorem linesOf_cons (a : Attempt) (as : List Attempt) :
    linesOf (a :: as)
      = (Json.obj a.fields).write .line ++ .char '\n' :: linesOf as := by
  rw [linesOf, List.flatMap_cons, Attempt.line, List.append_assoc]
  rfl

theorem lines_linesOf (as : List Attempt) :
    (linesOf as).lines = as.map Attempt.line := by
  induction as with
  | nil => rfl
  | cons a as ih =>
      rw [linesOf_cons, Text.lines_line a.isUnbroken_body, ih]
      rfl

/-- Added to a text, the first of the lines goes on the unfinished one. -/
theorem lines_append_linesOf (old : Text) (a : Attempt) (as : List Attempt) :
    (old ++ linesOf (a :: as)).lines
      = old.finished.lines
        ++ (old.unfinished ++ a.line) :: as.map Attempt.line := by
  have hne : (Json.obj a.fields).write .line ≠ [] := List.cons_ne_nil _ _
  rw [linesOf_cons, Text.lines_append_line old a.isUnbroken_body hne,
    lines_linesOf, Attempt.line, List.append_assoc]
  rfl

/-- A text with lines added to it is made of characters if it was. -/
theorem isScalar_append_linesOf {old : Text} (hold : old.IsScalar)
    (as : List Attempt) : (old ++ linesOf as).IsScalar := by
  refine List.forall_mem_append.mpr ⟨hold, ?_⟩
  intro p hp
  obtain ⟨a, -, hp⟩ := List.mem_flatMap.mp hp
  exact a.isScalar_line p hp

theorem isScalar_linesOf (as : List Attempt) : (linesOf as).IsScalar :=
  isScalar_append_linesOf (fun _ hp => absurd hp List.not_mem_nil) as

/-- The lines of a file with nothing but the lines of attempts. -/
theorem linesAt_linesOf {s : Store} {path : Text}
    (hholds : s.Holds path (linesOf as)) :
    linesAt s path = as.map Attempt.line := by
  rw [linesAt_of_holds (isScalar_linesOf as) hholds, lines_linesOf]

-- ============================================================== reading

theorem IsReadAs.goesOn {a : Attempt} {line : Text} (h : IsReadAs a line) :
    GoesOn line := by
  obtain ⟨-, hid⟩ := idOf?_eq_some.mp h.1
  right
  intro f hf
  rw [hid] at hf
  cases hf

theorem HaveLines.isReadAs (h : HaveLines as) {a : Attempt} (ha : a ∈ as)
    {before : Text} (hbefore : before.all isGap = true) :
    IsReadAs a (before ++ a.line) := by
  obtain ⟨e, n, rfl, hline⟩ := h a ha
  exact Entry.isReadAs_line hline hbefore

/-- Every line of its own is read back. -/
theorem HaveLines.isReadAs_line (h : HaveLines as) {a : Attempt} (ha : a ∈ as) :
    IsReadAs a a.line := by
  have hread : IsReadAs a ([] ++ a.line) := h.isReadAs ha rfl
  exact hread

theorem HaveLines.forall₂ (h : HaveLines as) :
    List.Forall₂ IsReadAs as (as.map Attempt.line) := by
  rw [List.forall₂_map_right_iff, List.forall₂_same]
  exact fun a ha => h.isReadAs_line ha

/-- A text of which only blanks are unfinished has no number there. -/
theorem idOf?_gap {t : Text} (ht : t.all isGap = true) : idOf? t = none := by
  have hblank : t.isBlank = true := by
    apply List.all_eq_true.mpr
    intro p hp
    have hgap := (Json.Reader.isGap_iff p).mp (List.all_eq_true.mp ht p hp)
    rcases hgap with rfl | rfl | rfl | rfl <;> rfl
  rw [idOf?, if_pos hblank]

/-- The numbers on the lines of a text are those on its finished lines, if
nothing but blanks is unfinished. -/
theorem mem_finished_of_idOf? {old line : Text} {id : Int}
    (hold : old.unfinished.all isGap = true) (hline : line ∈ old.lines)
    (hid : idOf? line = some id) : line ∈ old.finished.lines := by
  rw [Text.lines_eq, List.mem_append] at hline
  rcases hline with h | h
  · exact h
  · split at h
    · exact absurd h List.not_mem_nil
    · rw [List.mem_singleton.mp h, idOf?_gap hold] at hid
      cases hid

-- ========================================================== added lines

/-- Attempts that are added to a text as a writer adds them that has read
it: they have lines, and their numbers rise from above those in the text. -/
structure Added (path old : Text) (a : Attempt) (as : List Attempt) : Prop where
  lines : HaveLines (a :: as)
  rise : (a :: as).Pairwise fun b c => b.id < c.id
  fault : (scanLines path 0 old.lines).fault = none
  above : (scanLines path 0 old.lines).last < a.id

namespace Added

variable {path old : Text} {a : Attempt}

/-- The numbers in the text lie below. -/
theorem old_lt (h : Added path old a as) {line : Text}
    (hline : line ∈ old.lines) {id : Int} (hid : idOf? line = some id) :
    id < a.id := by
  obtain ⟨-, hids⟩ := (last_le_iff path h.fault _).mp (Int.le_refl _)
  have hle := hids line hline id hid
  have habove := h.above
  omega

theorem idOf?_merged (h : Added path old a as)
    (hold : old.unfinished.all isGap = false) :
    idOf? (old.unfinished ++ a.line) = none := by
  obtain ⟨e, n, rfl, hline⟩ := h.lines a List.mem_cons_self
  exact Entry.idOf?_unfinished hline hold

theorem isReadAs_merged (h : Added path old a as)
    (hold : old.unfinished.all isGap = true) :
    IsReadAs a (old.unfinished ++ a.line) :=
  h.lines.isReadAs List.mem_cons_self hold

/-- A number on a line behind the first is that of an attempt behind the
first. -/
theorem rest_of_idOf? (h : Added path old a as) {line : Text}
    (hline : line ∈ as.map Attempt.line) {id : Int}
    (hid : idOf? line = some id) : ∃ b ∈ as, b.id = id := by
  obtain ⟨b, hb, rfl⟩ := List.mem_map.mp hline
  rw [(h.lines.of_cons.isReadAs_line hb).1] at hid
  exact ⟨b, hb, Option.some.inj hid⟩

-- ------------------------------------------------- what becomes of records

/-- The records all have lines of their own exactly if nothing but blanks
was unfinished. Otherwise no line has the number of the first. -/
theorem kept_iff (h : Added path old a as) :
    List.SublistForall₂ IsReadAs (a :: as) (old ++ linesOf (a :: as)).lines
      ↔ old.unfinished.all isGap = true := by
  rw [lines_append_linesOf]
  constructor
  · intro hkept
    rw [← Bool.not_eq_false]
    intro hold
    obtain ⟨ls, hls, hsub⟩ := List.sublistForall₂_iff.mp hkept
    cases hls with
    | @cons _ line _ ls hfirst _ =>
        have hline := hsub.subset List.mem_cons_self
        rcases List.mem_append.mp hline with hline | hline
        · have hlt := h.old_lt (Text.mem_lines_of_finished hline) hfirst.1
          omega
        rcases List.mem_cons.mp hline with rfl | hline
        · have hnone := h.idOf?_merged hold
          rw [hfirst.1] at hnone
          cases hnone
        · obtain ⟨b, hb, hid⟩ := h.rest_of_idOf? hline hfirst.1
          have hlt := List.rel_of_pairwise_cons h.rise hb
          omega
  · intro hold
    refine List.sublistForall₂_iff.mpr ⟨_, ?_, List.sublist_append_right _ _⟩
    exact .cons (h.isReadAs_merged hold) h.lines.of_cons.forall₂

/-- Nothing stops the reading then. -/
theorem fault_eq_none (h : Added path old a as)
    (hold : old.unfinished.all isGap = true) :
    (scanLines path 0 (old ++ linesOf (a :: as)).lines).fault = none := by
  rw [fault_eq_none_iff, lines_append_linesOf]
  intro line hline
  rcases List.mem_append.mp hline with hline | hline
  · exact (fault_eq_none_iff path).mp h.fault line
      (Text.mem_lines_of_finished hline)
  rcases List.mem_cons.mp hline with rfl | hline
  · exact (h.isReadAs_merged hold).goesOn
  · obtain ⟨b, hb, rfl⟩ := List.mem_map.mp hline
    exact (h.lines.of_cons.isReadAs_line hb).goesOn

/-- If the only record is lost, the greatest number that is read is still
that of the text. -/
theorem last_le_of_lost (h : Added path old a [])
    (hold : old.unfinished.all isGap = false)
    (hread : (scanLines path 0 (old ++ linesOf [a]).lines).fault = none) :
    (scanLines path 0 (old ++ linesOf [a]).lines).last
      ≤ (scanLines path 0 old.lines).last := by
  obtain ⟨hzero, hids⟩ := (last_le_iff path h.fault _).mp (Int.le_refl _)
  rw [last_le_iff path hread]
  refine ⟨hzero, ?_⟩
  intro line hline id hid
  rw [lines_append_linesOf] at hline
  rcases List.mem_append.mp hline with hline | hline
  · exact hids line (Text.mem_lines_of_finished hline) id hid
  · rw [List.mem_singleton.mp hline, h.idOf?_merged hold] at hid
    cases hid

/-- The greatest number that is read reaches the numbers of all records if
nothing but blanks was unfinished, or if the first record is not the only
one. -/
theorem le_last_iff (h : Added path old a as)
    (hread : (scanLines path 0 (old ++ linesOf (a :: as)).lines).fault = none) :
    (∀ b ∈ a :: as,
        b.id ≤ (scanLines path 0 (old ++ linesOf (a :: as)).lines).last)
      ↔ old.unfinished.all isGap = true ∨ as ≠ [] := by
  have hbound := ((last_le_iff path hread _).mp (Int.le_refl _)).2
  constructor
  · intro hall
    rw [← Bool.not_eq_false, ← Decidable.not_and_iff_not_or_not]
    rintro ⟨hold, rfl⟩
    have hle := h.last_le_of_lost hold hread
    have hfirst := hall a List.mem_cons_self
    have habove := h.above
    omega
  · rw [lines_append_linesOf] at hbound ⊢
    generalize (scanLines path 0 _).last = last at hbound ⊢
    have hrest : ∀ b ∈ as, b.id ≤ last := by
      intro b hb
      have hline : b.line ∈ as.map Attempt.line := List.mem_map_of_mem hb
      apply hbound b.line _ b.id (h.lines.of_cons.isReadAs_line hb).1
      exact List.mem_append_right _ (List.mem_cons_of_mem _ hline)
    rintro (hold | hne) b hb
    · rcases List.mem_cons.mp hb with rfl | hb
      · apply hbound _ _ b.id (h.isReadAs_merged hold).1
        exact List.mem_append_right _ List.mem_cons_self
      · exact hrest b hb
    · rcases List.mem_cons.mp hb with rfl | hb
      · -- the records behind the first are numbered above it
        obtain ⟨c, cs, rfl⟩ := List.exists_cons_of_ne_nil hne
        have hlt := List.rel_of_pairwise_cons h.rise List.mem_cons_self
        have hle := hrest c List.mem_cons_self
        omega
      · exact hrest b hb

/-- The numbers in the text are reached then, if nothing but blanks was
unfinished. -/
theorem old_le_last (h : Added path old a as)
    (hold : old.unfinished.all isGap = true) {line : Text}
    (hline : line ∈ old.lines) {id : Int} (hid : idOf? line = some id) :
    id ≤ (scanLines path 0 (old ++ linesOf (a :: as)).lines).last := by
  have hread := h.fault_eq_none hold
  obtain ⟨-, hbound⟩ := (last_le_iff path hread _).mp (Int.le_refl _)
  apply hbound line _ id hid
  rw [lines_append_linesOf]
  exact List.mem_append_left _ (mem_finished_of_idOf? hold hline hid)

end Added

-- =========================================================== opened again

/-- What is expected of a journal that is opened again: every record is read
from a line of its own, in order, and the next number is above all that
were given back and all that could be read before. -/
structure Continues (old : Text) (records : List Attempt)
    (results : List (Except Fault Int)) (lines : List Text) (next : Int) :
    Prop where
  kept : List.SublistForall₂ IsReadAs records lines
  above_results : ∀ id, .ok id ∈ results → id < next
  above_old : ∀ line ∈ old.lines, ∀ id, idOf? line = some id → id < next

variable {s s₁ : Store} {directory old : Text} {w : Writer}

/-- A journal that is opened again meets the expectation exactly if nothing
but blanks was unfinished when it was opened before; and then no line can
keep it from being opened. A number is used again exactly if something
else was unfinished and only one record was added. -/
theorem reopening_continues_iff {time : Json} {log : List Text}
    (hold : s.Holds (linesPath directory) old) (hscalar : old.IsScalar)
    (hopen : openAt s directory time = (⟨.ok w, log⟩, s₁)) (es : List Entry)
    (hsome : attemptsFrom w.nextId es ≠ []) :
    let records := attemptsFrom w.nextId es
    let used := w.appendAll s₁ es
    let s₂ := (used.2.1.close used.2.2).2
    (old.unfinished.all isGap = true →
        (scan s₂ (linesPath directory)).fault = none)
      ∧ ∀ time' v log' s₃, openAt s₂ directory time' = (⟨.ok v, log'⟩, s₃) →
          (Continues
              old records used.1 (linesAt s₂ (linesPath directory)) v.nextId
            ↔ old.unfinished.all isGap = true)
          ∧ ((∀ a ∈ records, a.id < v.nextId)
            ↔ old.unfinished.all isGap = true ∨ 2 ≤ records.length) := by
  intro records used s₂
  obtain ⟨hfault, hnext, rfl, hready⟩ := openAt_ready hopen hold hscalar
  obtain ⟨hresults, hdirectory, hready⟩ := appendAll_ready hready es
  have hready := close_ready hready
  have hlines : HaveLines records := by
    intro a ha
    obtain ⟨e, n, heq, hline, -⟩ := attempt_of_mem ha
    exact ⟨e, n, heq, hline⟩
  have hscalar' : (old ++ linesOf records).IsScalar :=
    isScalar_append_linesOf hscalar _
  have hclosed : (used.2.1.close used.2.2).1.directory = w.directory :=
    (directory_close _ _).trans hdirectory
  have hholds : s₂.Holds (linesPath w.directory) (old ++ linesOf records) :=
    hclosed ▸ hready.holds
  have hfree : s₂.isDirectory (Path.place (linesPath w.directory)) = false :=
    hclosed ▸ hready.free
  rw [scan_of_holds hscalar' hholds hfree, linesAt_of_holds hscalar' hholds]
  obtain ⟨a, as, hcons⟩ := List.exists_cons_of_ne_nil hsome
  have hrecords : records = a :: as := hcons
  have hadded : Added (linesPath w.directory) old a as := by
    have hfirst : a ∈ records := hrecords ▸ List.mem_cons_self
    obtain ⟨e, n, rfl, -, hle⟩ := attempt_of_mem hfirst
    have hrise := pairwise_attemptsFrom w.nextId es
    refine ⟨hrecords ▸ hlines, hrecords ▸ hrise, hfault, ?_⟩
    show _ < n
    omega
  rw [hrecords] at hscalar' hholds ⊢
  refine ⟨hadded.fault_eq_none, ?_⟩
  intro time' v log' s₃ hopen'
  obtain ⟨hfault', hnext', -, -⟩ := openAt_ready hopen' hholds hscalar'
  rw [hnext']
  constructor
  · constructor
    · intro h
      exact hadded.kept_iff.mp h.kept
    · intro hblank
      refine ⟨hadded.kept_iff.mpr hblank, ?_, ?_⟩
      · intro id hid
        obtain ⟨b, hb, rfl⟩ := hresults id hid
        have hle := (hadded.le_last_iff hfault').mpr (.inl hblank)
        exact Int.lt_add_one_of_le (hle b (hcons ▸ hb))
      · intro line hline id hid
        exact Int.lt_add_one_of_le (hadded.old_le_last hblank hline hid)
  · simp only [Int.lt_add_one_iff]
    rw [hadded.le_last_iff hfault', List.length_cons, ← List.length_pos_iff]
    exact or_congr_right (by omega)

/-- A record that only lacks its end. -/
def unended : Text := "\x7b\"id\": 5\x7d"

/-- A journal that ends with it. -/
def unendedStore : Store :=
  ⟨[], [(Path.place (linesPath ""), .bytes unended.utf8)]⟩

/-- An outcome to hand in. -/
def paired : Entry := ⟨"A1", ⟨.success, some 200, "ok", .zero⟩, .zero⟩

/-- A record that only lacks its end is lost with the record behind it: the
next number is 1 when 5 and 6 are in use. -/
theorem not_continues_behind_unended :
    unendedStore.Holds (linesPath "") unended ∧ unended.IsScalar
      ∧ ∃ w log s₁, openAt unendedStore "" (.int 0) = (⟨.ok w, log⟩, s₁)
        ∧ attemptsFrom w.nextId [paired] ≠ []
        ∧ ∃ used s₂, used = w.appendAll s₁ [paired]
          ∧ s₂ = (used.2.1.close used.2.2).2
          ∧ ∃ v log' s₃, openAt s₂ "" (.int 0) = (⟨.ok v, log'⟩, s₃)
            ∧ w.nextId = 6 ∧ v.nextId = 1
            ∧ ¬Continues unended (attemptsFrom w.nextId [paired]) used.1
                (linesAt s₂ (linesPath "")) v.nextId
            ∧ ¬∀ a ∈ attemptsFrom w.nextId [paired], a.id < v.nextId := by
  have hold : unendedStore.Holds (linesPath "") unended := .inl rfl
  have hscalar : unended.IsScalar := Text.isScalar_ofString _
  let opened := openAt unendedStore "" (.int 0)
  have hfirst : opened.1.value.toOption.map (·.nextId) = some 6 := by
    decide +kernel
  have hsecond : (opened.1.value.toOption.bind fun w =>
      let used := w.appendAll opened.2 [paired]
      let again := openAt (used.2.1.close used.2.2).2 "" (.int 0)
      again.1.value.toOption.map (·.nextId)) = some 1 := by
    decide +kernel
  obtain ⟨⟨⟨result, log⟩, s₁⟩, hopen⟩ : ∃ x, opened = x := ⟨_, rfl⟩
  rw [hopen] at hfirst hsecond
  cases result with
  | error f => cases hfirst
  | ok w =>
      have hw : w.nextId = 6 := Option.some.inj hfirst
      have hsome : attemptsFrom w.nextId [paired] ≠ [] := by
        rw [hw]
        decide +kernel
      obtain ⟨-, hexact⟩ :=
        reopening_continues_iff hold hscalar hopen [paired] hsome
      simp only [Except.toOption, Option.bind_some] at hsecond
      obtain ⟨used, hused⟩ : ∃ x, w.appendAll s₁ [paired] = x := ⟨_, rfl⟩
      rw [hused] at hsecond hexact
      obtain ⟨⟨⟨result', log'⟩, s₃⟩, hagain⟩ :
          ∃ x, openAt (used.2.1.close used.2.2).2 "" (.int 0) = x := ⟨_, rfl⟩
      rw [hagain] at hsecond
      cases result' with
      | error f => cases hsecond
      | ok v =>
          obtain ⟨hcontinues, hbelow⟩ := hexact _ _ _ _ hagain
          have hv : v.nextId = 1 := Option.some.inj hsecond
          have hnot : ¬unended.unfinished.all isGap = true := by decide +kernel
          have hone : ¬2 ≤ (attemptsFrom w.nextId [paired]).length := by
            rw [hw]
            decide +kernel
          refine ⟨hold, hscalar, w, log, s₁, hopen, hsome, used, _, hused.symm,
            rfl, v, log', s₃, hagain, hw, hv, ?_, ?_⟩
          · intro h
            exact hnot (hcontinues.mp h)
          · intro h
            exact (hbelow.mp h).elim hnot hone

end DevicePairing.Journal
