/-
Computations that can go wrong.

What is done step by step comes to a value exactly if each step does. The
proofs about such computations go backwards through the steps: from the
value at the end to that of the step before.
-/
import DevicePairing.Fault

namespace DevicePairing

/-- A sequence comes to a value if both of its steps do. -/
theorem bind_eq_ok {ε α β : Type} {x : Except ε α} {f : α → Except ε β}
    {b : β} :
    (x >>= f) = .ok b ↔ ∃ a, x = .ok a ∧ f a = .ok b := by
  cases x with
  | error e => exact ⟨fun h => (nomatch h), fun ⟨_, h, _⟩ => (nomatch h)⟩
  | ok a => exact ⟨fun h => ⟨a, rfl, h⟩, fun ⟨_, ha, h⟩ => by cases ha; exact h⟩

/-- So does a value that something is made of. -/
theorem map_eq_ok {ε α β : Type} {x : Except ε α} {f : α → β} {b : β} :
    x.map f = .ok b ↔ ∃ a, x = .ok a ∧ f a = b := by
  cases x with
  | error e => exact ⟨fun h => (nomatch h), fun ⟨_, h, _⟩ => (nomatch h)⟩
  | ok a =>
      exact ⟨fun h => ⟨a, rfl, by cases h; rfl⟩,
        fun ⟨_, ha, h⟩ => by cases ha; cases h; rfl⟩

/-- A value that a computation is known to have is what it comes to. -/
theorem eq_ok_of_toOption {ε α : Type} {x : Except ε α} {a : α}
    (h : x.toOption = some a) : x = .ok a := by
  cases x with
  | error e => cases h
  | ok b =>
      cases h
      rfl

end DevicePairing
