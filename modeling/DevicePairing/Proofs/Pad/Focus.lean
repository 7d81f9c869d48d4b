/-
Where the focus is, and what is selected.

A pad keeps the selection as two numbers, set when an event moves the
focus, while the cells go on changing. It stays inside the content of the
focused cell because nothing changes a cell without moving the focus: an
input leaves it behind what was stored, or on the next cell with all of
its content. So focus and selection are told by the last event that
touched the pad and the cells as they are now (`Follows`), and the bounds
are read off from that.

What is refused touches nothing, and neither does a submission, when it
goes out or when it is over.
-/
import DevicePairing.Proofs.Pad.Flight
import DevicePairing.Proofs.Pad.Touch

namespace DevicePairing

open Pad (Event Flight)

namespace Pad

-- ============================================================ vocabulary

/-- The focus is on a cell, with all of its content selected. -/
def SelectsAll (p : Pad) (i : Nat) : Prop :=
  ∃ cell, p.cells[i]? = some cell
    ∧ p.focus = i ∧ p.selection = (0, cell.text.length)

/-- The focus is on a cell, with the caret behind its content. -/
def CaretBehind (p : Pad) (i : Nat) : Prop :=
  ∃ cell, p.cells[i]? = some cell
    ∧ p.focus = i ∧ p.selection = (cell.text.length, cell.text.length)

/-- The selection lies within the content of the focused cell. -/
def SelectsInside (p : Pad) : Prop :=
  ∃ cell, p.cells[p.focus]? = some cell
    ∧ p.selection.1 ≤ p.selection.2 ∧ p.selection.2 ≤ cell.text.length

/-- Focus and selection are where an input or a focus event leaves them. A
digit selects the next cell, unless its cell is the last; any other input
leaves the caret behind what is in its cell. Before there was such an event
they are at the very beginning. -/
def Follows (p : Pad) : Option Mark → Prop
  | some (.typed index raw) =>
    ∃ i : Nat, index = .int i
      ∧ if (Cell.inputText raw).any CodePoint.isDigit ∧ i + 1 < p.cellCount
        then p.SelectsAll (i + 1)
        else p.CaretBehind i
  | some (.focused index) => ∃ i : Nat, index = .int i ∧ p.SelectsAll i
  | _ => p.focus = 0 ∧ p.selection = (0, 0)

-- =============================================================== sections

variable {p : Pad} {i : Nat}

theorem contentLength_eq {cell : Cell} (h : p.cells[i]? = some cell) :
    p.contentLength i = cell.text.length := by
  rw [contentLength, h]
  cases cell <;> rfl

theorem selectsAll_select (hi : i < p.cellCount) :
    (p.select i).SelectsAll i := by
  have hcell : p.cells[i]? = some p.cells[i] := List.getElem?_eq_getElem hi
  exact ⟨_, hcell, rfl, congrArg _ (contentLength_eq hcell)⟩

theorem caretBehind_placeCaret (hi : i < p.cellCount) :
    (p.placeCaret i).CaretBehind i := by
  have hcell : p.cells[i]? = some p.cells[i] := List.getElem?_eq_getElem hi
  refine ⟨_, hcell, rfl, ?_⟩
  rw [placeCaret, contentLength_eq hcell]

/-- Where a stored value leaves focus and selection. -/
theorem store_rests (p : Pad) {i : Nat} (hi : i < p.cellCount) (c : Cell) :
    if c.isSome ∧ i + 1 < p.cellCount
      then (p.store i c).SelectsAll (i + 1)
      else (p.store i c).CaretBehind i := by
  have hlength : (p.cells.set i c).length = p.cellCount := List.length_set
  unfold store
  simp only [Bool.and_eq_true, decide_eq_true_eq]
  split
  · rename_i hnext
    exact selectsAll_select (Nat.lt_of_lt_of_eq hnext.2 hlength.symm)
  · exact caretBehind_placeCaret (Nat.lt_of_lt_of_eq hi hlength.symm)

/-- A submission that is over leaves focus and selection. -/
theorem finishSubmit_focus (p : Pad) (now : Int) (flight : Flight)
    (ending : Ending) :
    (p.finishSubmit now flight ending).2.focus = p.focus
      ∧ (p.finishSubmit now flight ending).2.selection = p.selection := by
  cases hf : (p.client.finish now flight.started ending).value with
  | ok o =>
      rw [(finishSubmit_of_ok _ hf).2]
      exact ⟨rfl, rfl⟩
  | error f =>
      rw [(finishSubmit_of_error _ hf).2]
      split <;> exact ⟨rfl, rfl⟩

/-- Wherever an event leaves them, the selection is inside the content of the
focused cell. -/
theorem Follows.inside {m : Option Mark} (hpos : 0 < p.cellCount)
    (h : p.Follows m) : p.SelectsInside := by
  have hall {i : Nat} : p.SelectsAll i → p.SelectsInside := by
    rintro ⟨cell, hcell, rfl, hselection⟩
    rw [SelectsInside, hselection]
    exact ⟨cell, hcell, Nat.zero_le _, Nat.le_refl _⟩
  have hcaret {i : Nat} : p.CaretBehind i → p.SelectsInside := by
    rintro ⟨cell, hcell, rfl, hselection⟩
    rw [SelectsInside, hselection]
    exact ⟨cell, hcell, Nat.le_refl _, Nat.le_refl _⟩
  unfold Follows at h
  split at h
  · obtain ⟨i, -, hi⟩ := h
    split at hi
    · exact hall hi
    · exact hcaret hi
  · obtain ⟨i, -, hi⟩ := h
    exact hall hi
  · obtain ⟨hfocus, hselection⟩ := h
    rw [SelectsInside, hfocus, hselection]
    exact ⟨_, List.getElem?_eq_getElem hpos, Nat.le_refl _, Nat.zero_le _⟩

end Pad

namespace Scene

-- ================================================================== runs

variable {s s' : Scene}

/-- What touches neither cells nor focus leaves the pad following the same
event. -/
theorem Spares.follows (hspares : Spares s s')
    (h : s.pad.Follows s.touches.getLast?) :
    s'.pad.Follows s'.touches.getLast? := by
  obtain ⟨htouches, hcells, hfocus, hselection⟩ := hspares
  rw [htouches]
  unfold Pad.Follows Pad.SelectsAll Pad.CaretBehind Pad.cellCount at h ⊢
  rw [hcells, hfocus, hselection]
  exact h

/-- Every change leaves focus and selection where its event does. -/
theorem Change.follows (hch : Change s s')
    (h : s.pad.Follows s.touches.getLast?) :
    s'.pad.Follows s'.touches.getLast? := by
  obtain ⟨index, raw, i, c, hi, hc, hpad, htouches⟩
    | ⟨index, i, hi, hpad, htouches⟩ | hspares := hch.touch
  · obtain ⟨rfl, hlt⟩ := Pad.index?_eq_ok.mp hi
    have hrests := s.pad.store_rests hlt c
    have hdigit : c.isSome = (Cell.inputText raw).any CodePoint.isDigit := by
      rw [Cell.eq_ofText_of_ofInput hc, Cell.isSome_ofText]
    rw [hdigit] at hrests
    rw [hpad, htouches, List.getLast?_concat]
    refine ⟨i, rfl, ?_⟩
    rw [Pad.store_cellCount]
    exact hrests
  · obtain ⟨rfl, hlt⟩ := Pad.index?_eq_ok.mp hi
    rw [hpad, htouches, List.getLast?_concat]
    exact ⟨i, rfl, Pad.selectsAll_select hlt⟩
  · exact hspares.follows h

theorem follows_run (u : Json) (c : Client) (n : Nat) (moves : List Move) :
    let s := (Scene.new u c n).run moves
    s.pad.Follows s.touches.getLast? :=
  run_induction (P := fun s => s.pad.Follows s.touches.getLast?)
    (fun _ _ hch => hch.follows) moves _ ⟨rfl, rfl⟩

/-- At every moment, also while a submission is under way: the focus is on
one of the cells, and the selection lies within what that cell holds now.
Both are where the last accepted input or focus event left them: on a cell
that was focused, or behind one that took a digit, with all of its content
selected; on a cell that took none, or the last one, with the caret behind
its content. What is not accepted, submissions among it, and the end of a
submission move neither. -/
theorem focus_follows_last_touch (u : Json) (c : Client) (n : Nat) (hn : 0 < n)
    (moves : List Move) :
    let s := (Scene.new u c n).run moves
    s.pad.cellCount = n
      ∧ s.pad.focus < n
      ∧ s.pad.SelectsInside
      ∧ s.pad.Follows s.touches.getLast?
      ∧ (∀ now e, s.pad.accepts e = false →
          (s.serve now e).pad.focus = s.pad.focus
            ∧ (s.serve now e).pad.selection = s.pad.selection)
      ∧ ∀ place now ending,
          let t := s.step (.reply place now ending)
          t.pad.focus = s.pad.focus ∧ t.pad.selection = s.pad.selection := by
  intro s
  have hcount : s.pad.cellCount = n := cellCount_run u c n moves
  have hfollows : s.pad.Follows s.touches.getLast? := follows_run u c n moves
  have hinside : s.pad.SelectsInside := hfollows.inside (hcount.symm ▸ hn)
  refine ⟨hcount, ?_, hinside, hfollows, ?_, ?_⟩
  · obtain ⟨cell, hcell, -⟩ := hinside
    obtain ⟨hlt, -⟩ := List.getElem?_eq_some_iff.mp hcell
    exact hcount ▸ hlt
  · intro now e ha
    by_cases hgo : e = .submit ∧ s.pad.refusal? = none
    · obtain ⟨rfl, hnone⟩ := hgo
      simp only [serve, hnone]
      exact ⟨rfl, rfl⟩
    · rw [serve_refused ha (fun he hnone => hgo ⟨he, hnone⟩) now]
      exact ⟨rfl, rfl⟩
  · intro place now ending t
    cases hcall : s.calls[place]? with
    | none =>
        simp only [t, step, hcall, and_self]
    | some call =>
        simp only [t, step, hcall]
        exact s.pad.finishSubmit_focus now call.flight ending

/-- Two cells hold `4` and `2` and are being submitted. An `x` in the first
clears it and leaves the caret there; a focus event on a third cell is
refused and moves nothing. -/
theorem focus_follows_clearing_input :
    let moves : List Move :=
      [.serve 0 (.input (.int 0) (.str "4")),
        .serve 0 (.input (.int 1) (.str "2")), .serve 1 .submit,
        .serve 2 (.input (.int 0) (.str "x")),
        .serve 3 (.focus (.int 2))]
    let s := (Scene.new (.str "A1") ⟨"http://localhost", .null, {}⟩ 2).run moves
    0 < 2 ∧ s.pad.phase = .submitting ∧ s.pad.cells = [none, some 2]
      ∧ s.pad.CaretBehind 0 ∧ s.pad.SelectsInside := by
  intro moves s
  have hpos : 0 < 2 := by decide
  obtain ⟨-, -, hinside, ⟨i, hi, hfollows⟩, -⟩ :=
    focus_follows_last_touch
      (.str "A1") ⟨"http://localhost", .null, {}⟩ 2 hpos moves
  obtain rfl : i = 0 := by cases hi; rfl
  exact ⟨hpos, by decide, by decide, hfollows, hinside⟩

end Scene

end DevicePairing
