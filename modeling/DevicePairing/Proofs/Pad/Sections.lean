/-
What the sections of a pad change.

Every event takes the pad's lock once, and a submission twice: when it
goes out and when it is over. This file says field by field what such a
section leaves behind, so that no later proof has to open one. The field
lemmas of `store` matter most: storing a digit ends in one of two ways
(the next cell is selected, or the caret stays), which differ in focus
and selection alone.

`onInput_eq_ok` and `onFocus_eq_ok` are the whole of what acceptance
means. An event is accepted or refused by its own values and the number
of cells, never by what the cells hold (`accepts_congr`), which is why
the events accepted during a flight can be counted before it begins.
-/
import DevicePairing.Pad.Event

namespace DevicePairing.Pad

-- ============================================================== fields

section Store

variable (p : Pad) (i : Nat) (c : Cell)

@[simp] theorem store_cells : (p.store i c).cells = p.cells.set i c := by
  unfold store
  split <;> rfl

@[simp] theorem store_generation :
    (p.store i c).generation = p.generation + 1 := by
  unfold store
  split <;> rfl

@[simp] theorem store_version : (p.store i c).version = p.version + 1 := by
  unfold store
  split <;> rfl

@[simp] theorem store_verdict : (p.store i c).verdict = none := by
  unfold store
  split <;> rfl

@[simp] theorem store_inFlight : (p.store i c).inFlight = p.inFlight := by
  unfold store
  split <;> rfl

@[simp] theorem store_client : (p.store i c).client = p.client := by
  unfold store
  split <;> rfl

@[simp] theorem store_uniqueId : (p.store i c).uniqueId = p.uniqueId := by
  unfold store
  split <;> rfl

@[simp] theorem store_cellCount :
    (p.store i c).cellCount = p.cellCount := by
  rw [cellCount, store_cells, List.length_set]
  rfl

/-- A digit moves the focus on, unless its cell is the last. -/
theorem store_focus : (p.store i c).focus
    = if c.isSome ∧ i + 1 < p.cellCount then i + 1 else i := by
  unfold store
  simp only [Bool.and_eq_true, decide_eq_true_eq]
  split <;> rfl

end Store

-- ============================================================ contents

/-- A cell shows one digit or nothing. -/
@[simp] theorem length_text (c : Cell) :
    c.text.length = if c.isSome then 1 else 0 := by
  cases c <;> rfl

/-- The digits entered are as many as the cells exactly when no cell is
empty. -/
theorem length_flatMap_text :
    ∀ cells : List Cell,
      (cells.flatMap Cell.text).length ≤ cells.length
        ∧ ((cells.flatMap Cell.text).length = cells.length
            ↔ cells.all Option.isSome = true)
  | [] => by simp
  | c :: cells => by
      obtain ⟨hle, hiff⟩ := length_flatMap_text cells
      cases c with
      | none =>
          simp only [List.flatMap_cons, List.length_append, length_text,
            List.length_cons, List.all_cons, Option.isSome_none, Bool.false_and]
          constructor
          · simp only [Bool.false_eq_true, if_false]; omega
          · simp only [Bool.false_eq_true, if_false, iff_false]; omega
      | some d =>
          simp only [List.flatMap_cons, List.length_append, length_text,
            List.length_cons,
            List.all_cons, Option.isSome_some, Bool.true_and, if_true]
          rw [← hiff]
          constructor <;> omega

/-- A pad is full exactly when it shows a digit for every cell. -/
theorem submitEnabled_iff (p : Pad) :
    p.submitEnabled = true ↔ p.candidate.length = p.cellCount :=
  (length_flatMap_text p.cells).2.symm

/-- A submission goes out from a full pad with none under way. -/
theorem refusal?_eq_none (p : Pad) :
    p.refusal? = none ↔ p.inFlight = false ∧ p.submitEnabled = true := by
  rw [submitEnabled_iff, refusal?]
  cases hf : p.inFlight with
  | true => simp
  | false =>
      by_cases hl : p.candidate.length = p.cellCount
      · simp [hl]
      · simp [hl]

/-- During a flight none goes out. -/
theorem refusal?_of_inFlight {p : Pad} (h : p.inFlight = true) :
    p.refusal? ≠ none := by
  intro hnone
  rw [((refusal?_eq_none p).mp hnone).1] at h
  cases h

-- =============================================================== phases

/-- The phase in full: a flight hides the verdict, and a verdict hides
whether the pad is full. -/
theorem phase_eq (p : Pad) :
    p.phase
      = if p.inFlight then .submitting
        else if p.verdict = some .success then .success
        else if p.verdict = some .error then .error
        else if p.submitEnabled then .ready
        else .idle := by
  unfold phase
  cases p.inFlight with
  | true => rfl
  | false =>
      rcases p.verdict with _ | v
      · rfl
      · cases v <;> rfl

theorem phase_eq_success {p : Pad} :
    p.phase = .success ↔ p.inFlight = false ∧ p.verdict = some .success := by
  rw [phase_eq]
  grind

theorem phase_eq_error {p : Pad} :
    p.phase = .error ↔ p.inFlight = false ∧ p.verdict = some .error := by
  rw [phase_eq]
  grind

-- ========================================================== acceptance

/-- Whether an event is an input or a focus event that the pad accepts. -/
def accepts (p : Pad) : Event → Bool
  | .input index raw => (p.index? index).toBool && (Cell.ofInput raw).toBool
  | .focus index => (p.index? index).toBool
  | .submit => false
  | .observe => false

/-- Whether an event is an input. -/
def Event.isInput : Event → Bool
  | .input _ _ => true
  | _ => false

/-- Whether an event is an input that the pad accepts. -/
def acceptsInput (p : Pad) (e : Event) : Bool := e.isInput && p.accepts e

/-- An index is accepted if it is a whole number that names a cell. -/
theorem index?_eq_ok {p : Pad} {index : Json} {i : Nat} :
    p.index? index = .ok i ↔ index = .int i ∧ i < p.cellCount := by
  unfold index?
  cases index with
  | int n =>
      by_cases hn : 0 ≤ n ∧ n < p.cellCount
      · simp only [hn, and_self, if_true, Except.ok.injEq, Json.int.injEq]
        omega
      · simp only [hn, if_false, reduceCtorEq, Json.int.injEq, false_iff]
        omega
  | _ => simp

theorem index?_congr {p q : Pad} (h : p.cellCount = q.cellCount)
    (index : Json) :
    p.index? index = q.index? index := by
  unfold index?
  rw [h]

/-- Acceptance depends on a pad only through its number of cells. -/
theorem accepts_congr {p q : Pad} (h : p.cellCount = q.cellCount) (e : Event) :
    p.accepts e = q.accepts e := by
  unfold accepts
  simp only [index?_congr h]

theorem acceptsInput_congr {p q : Pad} (h : p.cellCount = q.cellCount)
    (e : Event) :
    p.acceptsInput e = q.acceptsInput e := by
  unfold acceptsInput
  rw [accepts_congr h]

/-- What an accepted input does: it names a cell, and the cell takes the
first digit. -/
theorem onInput_eq_ok {p q : Pad} {index raw : Json} {c : Cell} :
    p.onInput index raw = .ok (c, q)
      ↔ ∃ i, p.index? index = .ok i ∧ Cell.ofInput raw = .ok c
        ∧ q = p.store i c := by
  unfold onInput
  cases hi : p.index? index with
  | error f => simp [bind, Except.bind]
  | ok i =>
      cases hc : Cell.ofInput raw with
      | error f => simp [bind, Except.bind]
      | ok c' =>
          simp only [bind, Except.bind, Except.ok.injEq, Prod.mk.injEq,
            exists_eq_left']
          constructor
          · rintro ⟨rfl, rfl⟩; exact ⟨rfl, rfl⟩
          · rintro ⟨rfl, rfl⟩; exact ⟨rfl, rfl⟩

/-- What an accepted focus event does: the cell it names is selected. -/
theorem onFocus_eq_ok {p q : Pad} {index : Json} :
    p.onFocus index = .ok q
      ↔ ∃ i, p.index? index = .ok i
        ∧ q = { p with version := p.version + 1 }.select i := by
  unfold onFocus
  cases hi : p.index? index with
  | error f => simp [bind, Except.bind]
  | ok i =>
      simp only [bind, Except.bind, Except.ok.injEq, exists_eq_left']
      exact eq_comm

-- ============================================================== endings

/-- The end of a submission with an outcome: it counts unless the count of
inputs has moved on. -/
theorem finishSubmit_of_ok {p : Pad} {now : Int} (flight : Flight)
    {ending : Ending} {o : Outcome}
    (ho : (p.client.finish now flight.started ending).value = .ok o) :
    (p.finishSubmit now flight ending).1.value
        = .ok (some (judged (flight.generation != p.generation) o))
      ∧ (p.finishSubmit now flight ending).2
        = p.land.announce (flight.generation != p.generation)
            (judged (flight.generation != p.generation) o) := by
  simp only [finishSubmit, ho, conclude, and_self]

/-- The end of a submission with a fault, which only an interrupt keeps
from releasing the pad. -/
theorem finishSubmit_of_error {p : Pad} {now : Int} (flight : Flight)
    {ending : Ending} {f : Fault}
    (hf : (p.client.finish now flight.started ending).value = .error f) :
    (p.finishSubmit now flight ending).1.value = .error f
      ∧ (p.finishSubmit now flight ending).2
        = if f.family = .interrupt then p else p.land := by
  unfold finishSubmit
  simp only [hf, conclude]
  cases f.family <;> exact ⟨rfl, rfl⟩

end DevicePairing.Pad
