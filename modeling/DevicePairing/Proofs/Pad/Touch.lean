/-
What the cells hold.

A cell is written by the inputs that name it, each of which replaces what
the one before it left. So what a cell holds is told by the text that was
last accepted for it, and by nothing else: not by the order of the inputs
to other cells, by submissions and how they ended, or by what was
refused.

Inputs and focus events are the only changes that touch the cells or the
focus. `touches` is what the trail has of them, and `Change.touch` says
once what a change does to both; the rest of this file, and the place of
the focus (`Focus.lean`), is read off from it.
-/
import DevicePairing.Proofs.Pad.Cell
import DevicePairing.Proofs.Pad.Scene

namespace DevicePairing

open Pad (Event)

-- ============================================================ vocabulary

namespace Mark

/-- Whether a change is an input or a focus event. -/
def isTouch : Mark → Bool
  | .typed _ _ => true
  | .focused _ => true
  | _ => false

/-- The text that a change put into a cell, if it is an input to it. -/
def textFor? (i : Nat) : Mark → Option Text
  | .typed (.int k) raw => if k = i then some (Cell.inputText raw) else none
  | _ => none

end Mark

namespace Scene

/-- The inputs and focus events that were accepted so far, oldest first. -/
def touches (s : Scene) : List Mark := s.trail.filter Mark.isTouch

/-- The texts that were accepted for a cell so far, oldest first. -/
def textsFor (s : Scene) (i : Nat) : List Text :=
  s.touches.filterMap (Mark.textFor? i)

/-- The text that was accepted last for a cell, an empty one if there was
none. -/
def lastText (s : Scene) (i : Nat) : Text := (s.textsFor i).getLast?.getD []

-- ============================================================= one change

variable {s s' : Scene}

theorem touches_typed (p : Pad) (calls : List Call) (index raw : Json) :
    touches ⟨p, calls, s.trail ++ [.typed index raw]⟩
      = s.touches ++ [.typed index raw] :=
  List.filter_append ..

theorem touches_focused (p : Pad) (calls : List Call) (index : Json) :
    touches ⟨p, calls, s.trail ++ [.focused index]⟩
      = s.touches ++ [.focused index] :=
  List.filter_append ..

theorem touches_other (p : Pad) (calls : List Call) {m : Mark}
    (hm : m.isTouch = false) :
    touches ⟨p, calls, s.trail ++ [m]⟩ = s.touches := by
  rw [touches, List.filter_append, List.filter_cons_of_neg (by simp [hm])]
  exact List.append_nil _

/-- A change that touches neither cells nor focus. -/
structure Spares (s s' : Scene) : Prop where
  touches : s'.touches = s.touches
  cells : s'.pad.cells = s.pad.cells
  focus : s'.pad.focus = s.pad.focus
  selection : s'.pad.selection = s.pad.selection

/-- A change is an input, a focus event, or touches neither cells nor
focus. -/
theorem Change.touch (h : Change s s') :
    (∃ index raw i c, s.pad.index? index = .ok i ∧ Cell.ofInput raw = .ok c
        ∧ s'.pad = s.pad.store i c
        ∧ s'.touches = s.touches ++ [.typed index raw])
      ∨ (∃ index i, s.pad.index? index = .ok i
        ∧ s'.pad = { s.pad with version := s.pad.version + 1 }.select i
        ∧ s'.touches = s.touches ++ [.focused index])
      ∨ Spares s s' := by
  cases h with
  | nothing => exact .inr (.inr ⟨rfl, rfl, rfl, rfl⟩)
  | typed hi hc => exact .inl ⟨_, _, _, _, hi, hc, rfl, touches_typed ..⟩
  | focused hi => exact .inr (.inl ⟨_, _, hi, rfl, touches_focused ..⟩)
  | sent hr => exact .inr (.inr ⟨touches_other _ _ rfl, rfl, rfl, rfl⟩)
  | returned hcall ho hs =>
      exact .inr (.inr ⟨touches_other _ _ rfl, rfl, rfl, rfl⟩)
  | raised hcall hf hn =>
      exact .inr (.inr ⟨touches_other _ _ rfl, rfl, rfl, rfl⟩)
  | interrupted hcall hf hn =>
      exact .inr (.inr ⟨touches_other _ _ rfl, rfl, rfl, rfl⟩)

/-- An input is the last text for its cell, and none for another. -/
theorem lastText_typed {raw : Json} {k : Nat}
    (h : s'.touches = s.touches ++ [.typed (.int k) raw]) (i : Nat) :
    s'.lastText i = if k = i then Cell.inputText raw else s.lastText i := by
  rw [lastText, textsFor, h, List.filterMap_append, lastText, textsFor]
  by_cases hk : k = i
  · have htext : (Mark.typed (.int k) raw).textFor? i
        = some (Cell.inputText raw) := by simp [Mark.textFor?, hk]
    rw [if_pos hk, List.filterMap_cons_some htext]
    simp
  · have hne : ¬(k : Int) = i := by omega
    rw [if_neg hk, List.filterMap_cons_none (by simp [Mark.textFor?, hne])]
    simp

theorem lastText_focused {index : Json}
    (h : s'.touches = s.touches ++ [.focused index]) (i : Nat) :
    s'.lastText i = s.lastText i := by
  rw [lastText, textsFor, h, List.filterMap_append, lastText, textsFor]
  simp [Mark.textFor?]

-- ================================================================ cells

/-- Every cell holds what it takes from its last text. -/
def Told (s : Scene) : Prop :=
  ∀ i < s.pad.cells.length,
    s.pad.cells[i]? = some (Cell.ofText (s.lastText i))

theorem told_new (u : Json) (c : Client) (n : Nat) : Told (.new u c n) := by
  intro i hi
  have hlength : i < n := by
    rw [new, Pad.new, List.length_replicate] at hi
    exact hi
  exact List.getElem?_replicate_of_lt hlength

theorem Change.told (hch : Change s s') (h : s.Told) : s'.Told := by
  intro i hi
  obtain ⟨index, raw, k, c, hk, hc, hpad, htouches⟩
    | ⟨index, k, hk, hpad, htouches⟩ | hspares := hch.touch
  · obtain ⟨rfl, hlt⟩ := Pad.index?_eq_ok.mp hk
    rw [hpad, Pad.store_cells] at hi ⊢
    rw [List.length_set] at hi
    rw [lastText_typed htouches, List.getElem?_set]
    by_cases heq : k = i
    · have hlt : k < s.pad.cells.length := hlt
      rw [if_pos heq, if_pos heq, if_pos hlt, Cell.eq_ofText_of_ofInput hc]
    · rw [if_neg heq, if_neg heq]
      exact h i hi
  · rw [lastText_focused htouches]
    rw [hpad] at hi ⊢
    exact h i hi
  · have htext : s'.lastText i = s.lastText i := by
      rw [lastText, textsFor, hspares.touches]
      rfl
    rw [hspares.cells] at hi ⊢
    rw [htext]
    exact h i hi

theorem told_run (u : Json) (c : Client) (n : Nat) (moves : List Move) :
    ((Scene.new u c n).run moves).Told :=
  run_induction (fun _ _ hch => hch.told) moves _ (told_new u c n)

/-- Cells whose last texts are the same are the same. -/
theorem Told.cells_eq (h : s.Told) (h' : s'.Told)
    (hlength : s'.pad.cells.length = s.pad.cells.length)
    (htexts : ∀ i < s.pad.cells.length, s'.lastText i = s.lastText i) :
    s'.pad.cells = s.pad.cells := by
  apply List.ext_getElem?
  intro i
  by_cases hi : i < s.pad.cells.length
  · rw [h i hi, h' i (hlength ▸ hi), htexts i hi]
  · rw [List.getElem?_eq_none (by omega), List.getElem?_eq_none (by omega)]

/-- At every moment, also while a submission is under way: each cell shows
the first digit of the text that was accepted last for it, which is what
remains of the text if all but digits is dropped and the rest is cut to
one; and nothing if that text has no digit, or none was accepted. So two
pads for which the last texts are the same, cell by cell, agree in their
cells and in everything that is read off from them, whatever else has
happened to either. -/
theorem cells_tell_last_text (u : Json) (c : Client) (n : Nat)
    (moves : List Move) :
    let s := (Scene.new u c n).run moves
    s.pad.cells.length = n
      ∧ (∀ i < n, ∃ cell, s.pad.cells[i]? = some cell
        ∧ cell.text = (s.lastText i).firstDigit
        ∧ cell.text = ((s.lastText i).filter CodePoint.isDigit).take 1)
      ∧ ∀ u' c' moves',
          let s' := (Scene.new u' c' n).run moves'
          (∀ i < n, s'.lastText i = s.lastText i) →
            s'.pad.cells = s.pad.cells
              ∧ s'.pad.candidate = s.pad.candidate
              ∧ s'.pad.snapshot.pinLength = s.pad.snapshot.pinLength
              ∧ s'.pad.submitEnabled = s.pad.submitEnabled := by
  intro s
  have hlength (u : Json) (c : Client) (moves : List Move) :
      ((Scene.new u c n).run moves).pad.cells.length = n :=
    cellCount_run u c n moves
  have htold : s.Told := told_run u c n moves
  refine ⟨hlength u c moves, ?_, ?_⟩
  · intro i hi
    refine ⟨_, htold i ((hlength u c moves).symm ▸ hi), Cell.text_ofText _, ?_⟩
    rw [Cell.text_ofText, Text.firstDigit_eq_take]
  · intro u' c' moves' s' htexts
    have hcells : s'.pad.cells = s.pad.cells := by
      apply htold.cells_eq (told_run u' c' n moves')
      · rw [hlength, hlength]
      · intro i hi
        exact htexts i ((hlength u c moves) ▸ hi)
    have hcandidate : s'.pad.candidate = s.pad.candidate := by
      rw [Pad.candidate, hcells]
      rfl
    refine ⟨hcells, hcandidate, congrArg List.length hcandidate, ?_⟩
    rw [Pad.submitEnabled, hcells]
    rfl

end Scene

end DevicePairing
