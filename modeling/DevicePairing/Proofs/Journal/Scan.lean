/-
What reading a journal comes to.

The reader goes through the lines and keeps the greatest number it has
met. So what it comes to depends on the numbers of the lines alone, and
one lemma says how: the greatest number is at most some bound exactly if
the number to begin with and all the numbers on the lines are. Reading
stops early only at a line whose fault is not one to pass over.
-/
import DevicePairing.Journal.Writer
import DevicePairing.Proofs.Text.Utf8

namespace DevicePairing

namespace Journal

/-- The number that reading takes from a line; a blank line has none. -/
def idOf? (line : Text) : Option Int :=
  if line.isBlank then none else (lineId line).toOption

/-- Whether reading goes on behind a line. -/
def GoesOn (line : Text) : Prop :=
  line.isBlank = true ∨ ∀ f, lineId line = .error f → isPassedOver f = true

theorem idOf?_eq_some {line : Text} {id : Int} :
    idOf? line = some id ↔ line.isBlank = false ∧ lineId line = .ok id := by
  unfold idOf?
  cases hblank : line.isBlank with
  | true => simp
  | false => cases hid : lineId line <;> simp [Except.toOption]

-- ================================================================ lines

variable (path : Text)

/-- What one line adds to what was read before it. -/
theorem scanLines_cons {last : Int} {line : Text} {lines : List Text}
    (hline : GoesOn line) :
    (scanLines path last (line :: lines)).fault
        = (scanLines path ((idOf? line).elim last (max last)) lines).fault
      ∧ (scanLines path last (line :: lines)).last
        = (scanLines path ((idOf? line).elim last (max last)) lines).last := by
  rw [scanLines]
  split
  · rename_i hblank
    rw [idOf?, if_pos hblank]
    exact ⟨rfl, rfl⟩
  · rename_i hblank
    have hno : idOf? line = (lineId line).toOption := by
      rw [idOf?, if_neg hblank]
    rw [hno]
    cases hid : lineId line with
    | ok id => exact ⟨rfl, rfl⟩
    | error f =>
        have hf : isPassedOver f = true := (hline.resolve_left hblank) f hid
        simp only [hf, if_true]
        exact ⟨rfl, rfl⟩

theorem goesOn_of_fault_eq_none {last : Int} {line : Text} {lines : List Text}
    (h : (scanLines path last (line :: lines)).fault = none) : GoesOn line := by
  unfold scanLines at h
  split at h
  · left
    assumption
  · right
    intro f hf
    rw [hf] at h
    dsimp only at h
    split at h
    · assumption
    · cases h

/-- Reading comes to its end exactly if it goes on behind every line. -/
theorem fault_eq_none_iff {last : Int} {lines : List Text} :
    (scanLines path last lines).fault = none ↔ ∀ line ∈ lines, GoesOn line := by
  induction lines generalizing last with
  | nil => exact ⟨fun _ _ h => absurd h List.not_mem_nil, fun _ => rfl⟩
  | cons line lines ih =>
      rw [List.forall_mem_cons, ← @ih ((idOf? line).elim last (max last))]
      constructor
      · intro h
        have hline := goesOn_of_fault_eq_none path h
        exact ⟨hline, by rw [← (scanLines_cons path hline).1, h]⟩
      · rintro ⟨hline, h⟩
        rw [(scanLines_cons path hline).1, h]

/-- What ends the reading is the fault of one of the lines. -/
theorem exists_of_fault {last : Int} {lines : List Text} {f : Fault}
    (h : (scanLines path last lines).fault = some f) :
    ∃ line ∈ lines, lineId line = .error f ∧ isPassedOver f = false := by
  fun_induction scanLines path last lines with
  | case1 last => cases h
  | case2 last line lines hblank ih =>
      obtain ⟨l, hl, hid⟩ := ih h
      exact ⟨l, List.mem_cons_of_mem _ hl, hid⟩
  | case3 last line lines hblank id hid ih =>
      obtain ⟨l, hl, hid⟩ := ih h
      exact ⟨l, List.mem_cons_of_mem _ hl, hid⟩
  | case4 last line lines hblank g hid hpass rest ih =>
      obtain ⟨l, hl, hid⟩ := ih h
      exact ⟨l, List.mem_cons_of_mem _ hl, hid⟩
  | case5 last line lines hblank g hid hpass =>
      cases h
      exact ⟨line, List.mem_cons_self, hid, Bool.eq_false_iff.mpr hpass⟩

/-- The greatest number is the least bound of the number to begin with and
the numbers on the lines. -/
theorem last_le_iff {last : Int} {lines : List Text}
    (h : (scanLines path last lines).fault = none) (n : Int) :
    (scanLines path last lines).last ≤ n
      ↔ last ≤ n ∧ ∀ line ∈ lines, ∀ id, idOf? line = some id → id ≤ n := by
  induction lines generalizing last with
  | nil => simp [scanLines]
  | cons line lines ih =>
      have hline := goesOn_of_fault_eq_none path h
      rw [(scanLines_cons path hline).1] at h
      rw [(scanLines_cons path hline).2, ih h, List.forall_mem_cons]
      cases idOf? line with
      | none => simp
      | some id =>
          simp only [Option.elim_some, Option.some.injEq, forall_eq',
            Int.max_le, and_assoc]

-- ================================================================ files

end Journal

namespace Store

/-- Whether the file at a path holds a text; where there is none, nothing. -/
def Holds (s : Store) (path t : Text) : Prop :=
  s.file? (Path.place path) = some (.bytes t.utf8)
    ∨ s.file? (Path.place path) = none ∧ t = []

end Store

namespace Journal

/-- The lines of the file at a path, as reading goes through them. -/
def linesAt (s : Store) (path : Text) : List Text :=
  match s.file? (Path.place path) with
  | some (.bytes b) => (decodeBlocks [] (blocksOf blockSize b)).1.lines
  | _ => []

/-- The lines of a file are those of its text. -/
theorem linesAt_of_holds {s : Store} {path t : Text} (ht : t.IsScalar)
    (h : s.Holds path t) :
    linesAt s path = t.lines := by
  rcases h with h | ⟨h, rfl⟩
  · have hpos : 0 < blockSize := by decide
    rw [linesAt, h]
    show (decodeBlocks [] (blocksOf blockSize t.utf8)).1.lines = t.lines
    rw [decodeBlocks_blocksOf hpos ht]
  · rw [linesAt, h]
    rfl

/-- Reading a file is reading the lines of its text. -/
theorem scan_of_holds {s : Store} {path t : Text} (ht : t.IsScalar)
    (h : s.Holds path t) (hfree : s.isDirectory (Path.place path) = false) :
    scan s path = scanLines path 0 t.lines := by
  rw [scan, hfree, if_neg Bool.false_ne_true]
  rcases h with h | ⟨h, rfl⟩
  · have hpos : 0 < blockSize := by decide
    rw [h]
    show scanBytes path t.utf8 = _
    rw [scanBytes, decodeBlocks_blocksOf hpos ht]
  · rw [h]
    rfl

end Journal

end DevicePairing
