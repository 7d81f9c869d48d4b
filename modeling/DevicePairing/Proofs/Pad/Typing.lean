/-
Typing along.

Nobody who types a PIN names a cell: each text goes into the cell that
has the focus, and a digit moves the focus on. So the cells in front of
the focus hold the digits that were typed, and what stands in the others
does not matter, since every cell is written before the focus passes it.
That is the invariant: one text keeps it (`store_fills`), and so do texts
one after the other (`typeAll_fills`). A text without a digit only clears
the focused cell, which is not in front of the focus.

At the last cell the focus has nowhere to go. A digit that is stored there
stays under it, and so does every digit after it (`typeAll_last`).
-/
import DevicePairing.Proofs.Pad.Focus

namespace DevicePairing

namespace Pad

/-- Type texts one after the other, each into the cell that has the focus at
that moment. -/
def typeAll (p : Pad) : List Text → Except Fault Pad
  | [] => .ok p
  | t :: ts => do
    let (_, q) ← p.onInput (.int p.focus) (.str t)
    q.typeAll ts

variable {p q : Pad} {t : Text}

-- ============================================================= one text

/-- A text that is typed at the focus is accepted, and stored there. -/
theorem onInput_focus (hfocus : p.focus < p.cellCount) (t : Text) :
    p.onInput (.int p.focus) (.str t)
      = .ok (Cell.ofText t, p.store p.focus (Cell.ofText t)) :=
  onInput_eq_ok.mpr
    ⟨p.focus, index?_eq_ok.mpr ⟨rfl, hfocus⟩, Cell.ofInput_str t, rfl⟩

theorem typeAll_cons (hfocus : p.focus < p.cellCount) (t : Text)
    (ts : List Text) :
    p.typeAll (t :: ts) = (p.store p.focus (Cell.ofText t)).typeAll ts := by
  rw [typeAll, onInput_focus hfocus]
  rfl

/-- Texts typed one after the other may be typed in two portions. -/
theorem typeAll_append {ts : List Text} (h : p.typeAll ts = .ok q)
    (ts' : List Text) : p.typeAll (ts ++ ts') = q.typeAll ts' := by
  induction ts generalizing p with
  | nil =>
      cases h
      rfl
  | cons t ts ih =>
      rw [List.cons_append, typeAll]
      rw [typeAll] at h
      cases hr : p.onInput (.int p.focus) (.str t) with
      | error f =>
          rw [hr] at h
          cases h
      | ok r =>
          rw [hr] at h
          exact ih h

/-- A text without a digit clears the focused cell and leaves the focus. -/
theorem onInput_without_digit (hfocus : p.focus < p.cellCount)
    (ht : t.any CodePoint.isDigit = false) :
    ∃ q, p.onInput (.int p.focus) (.str t) = .ok (none, q)
      ∧ q.cells = p.cells.set p.focus none
      ∧ q.focus = p.focus ∧ q.selection = (0, 0) := by
  have hnone : Cell.ofText t = none := by
    rw [← Option.not_isSome_iff_eq_none, Cell.isSome_ofText, ht]
    exact Bool.false_ne_true
  rw [onInput_focus hfocus, hnone]
  obtain ⟨cell, hcell, hmoved, hselection⟩ :
      (p.store p.focus none).CaretBehind p.focus := p.store_rests hfocus none
  rw [store_cells, List.getElem?_set_self hfocus] at hcell
  cases hcell
  exact ⟨_, rfl, store_cells .., hmoved, hselection⟩

/-- A text with a digit fills the last cell and leaves the focus there. -/
theorem store_last (hlast : p.focus + 1 = p.cellCount)
    (ht : t.any CodePoint.isDigit = true) :
    let q := p.store p.focus (Cell.ofText t)
    q.cells = p.cells.set p.focus (Cell.ofText t)
      ∧ q.focus = p.focus ∧ q.selection = (1, 1) := by
  intro q
  have hfocus : p.focus < p.cellCount := by omega
  have hsome : (Cell.ofText t).isSome = true := by rw [Cell.isSome_ofText, ht]
  have hrests := p.store_rests hfocus (Cell.ofText t)
  rw [if_neg (by omega)] at hrests
  obtain ⟨cell, hcell, hmoved, hselection⟩ := hrests
  rw [store_cells, List.getElem?_set_self hfocus] at hcell
  cases hcell
  rw [length_text, if_pos hsome] at hselection
  exact ⟨store_cells .., hmoved, hselection⟩

/-- While there is a cell to move on to, the cells in front of the focus are
joined by the focused one if it takes a digit. -/
theorem store_fills
    (h : p.focus + [t].countP (·.any CodePoint.isDigit) < p.cellCount) :
    let q := p.store p.focus (Cell.ofText t)
    q.focus = p.focus + [t].countP (·.any CodePoint.isDigit)
      ∧ q.cells.take q.focus
        = p.cells.take p.focus
          ++ ([t].map Cell.ofText).filter Option.isSome := by
  intro q
  have hfocus : p.focus < p.cellCount := by omega
  have hcells : q.cells = p.cells.set p.focus (Cell.ofText t) := store_cells ..
  have hmoved : q.focus = if (Cell.ofText t).isSome ∧ p.focus + 1 < p.cellCount
      then p.focus + 1 else p.focus := store_focus ..
  have hcount : [t].countP (·.any CodePoint.isDigit)
      = if (Cell.ofText t).isSome then 1 else 0 := by
    rw [Cell.isSome_ofText, List.countP_singleton]
  rw [hcount] at h ⊢
  rw [List.map_singleton]
  by_cases hdigit : (Cell.ofText t).isSome = true
  · rw [if_pos hdigit] at h ⊢
    rw [if_pos ⟨hdigit, h⟩] at hmoved
    refine ⟨hmoved, ?_⟩
    rw [hmoved, hcells, List.take_add_one, List.take_set_of_le (Nat.le_refl _),
      List.getElem?_set_self hfocus, List.filter_cons_of_pos hdigit]
    rfl
  · rw [if_neg hdigit]
    rw [if_neg (fun h => hdigit h.1)] at hmoved
    refine ⟨hmoved, ?_⟩
    rw [hmoved, hcells, List.take_set_of_le (Nat.le_refl _),
      List.filter_cons_of_neg hdigit]
    exact (List.append_nil _).symm

-- ============================================================ many texts

/-- While the focus has somewhere to go, each text with a digit moves it on
by one, and the cells in front of it hold the digits typed. -/
theorem typeAll_fills (ts : List Text)
    (h : p.focus + ts.countP (·.any CodePoint.isDigit) < p.cellCount) :
    ∃ q, p.typeAll ts = .ok q
      ∧ q.cellCount = p.cellCount
      ∧ q.focus = p.focus + ts.countP (·.any CodePoint.isDigit)
      ∧ q.cells.take q.focus
        = p.cells.take p.focus
          ++ (ts.map Cell.ofText).filter Option.isSome := by
  induction ts generalizing p with
  | nil => exact ⟨p, rfl, rfl, rfl, (List.append_nil _).symm⟩
  | cons t ts ih =>
      rw [← List.singleton_append, List.countP_append] at h ⊢
      rw [List.map_append, List.filter_append, List.singleton_append,
        typeAll_cons (by omega)]
      obtain ⟨hmoved, hfilled⟩ := store_fills (p := p) (t := t) (by omega)
      have hcount := store_cellCount p p.focus (Cell.ofText t)
      generalize p.store p.focus (Cell.ofText t) = r at *
      obtain ⟨q, hq, hlength, hend, hrest⟩ := ih (p := r) (by omega)
      refine ⟨q, hq, hlength.trans hcount, by omega, ?_⟩
      rw [hrest, hfilled, List.append_assoc]

/-- At the last cell every text with a digit replaces what is there, and the
focus stays. -/
theorem typeAll_last (hlast : p.focus + 1 = p.cellCount) {ts : List Text}
    (hts : ∀ t ∈ ts, t.any CodePoint.isDigit = true)
    (ht : t.any CodePoint.isDigit = true) :
    ∃ q, p.typeAll (ts ++ [t]) = .ok q
      ∧ q.cells = p.cells.set p.focus (Cell.ofText t)
      ∧ q.focus = p.focus ∧ q.selection = (1, 1) := by
  induction ts generalizing p with
  | nil =>
      have hfocus : p.focus < p.cellCount := by omega
      exact ⟨_, typeAll_cons hfocus t [], store_last hlast ht⟩
  | cons t' ts ih =>
      obtain ⟨ht', hts⟩ := List.forall_mem_cons.mp hts
      have hfocus : p.focus < p.cellCount := by omega
      have hcount := store_cellCount p p.focus (Cell.ofText t')
      obtain ⟨hcells, hmoved, -⟩ := store_last hlast ht'
      rw [List.cons_append, typeAll_cons hfocus]
      generalize p.store p.focus (Cell.ofText t') = r at *
      obtain ⟨q, hq, hfilled, hend, hselection⟩ := ih (p := r) (by omega) hts
      refine ⟨q, hq, ?_, hend.trans hmoved, hselection⟩
      rw [hfilled, hcells, hmoved, List.set_set]

/-- Typed from the first cell on, the text whose digit is the last that the
pad has room for leaves the digits typed in all cells. -/
theorem typeAll_full (hzero : p.focus = 0) {before : List Text} {last : Text}
    (hcount : before.countP (·.any CodePoint.isDigit) + 1 = p.cellCount)
    (hlast : last.any CodePoint.isDigit = true) :
    ∃ q, p.typeAll (before ++ [last]) = .ok q
      ∧ q.cellCount = p.cellCount
      ∧ q.cells = ((before ++ [last]).map Cell.ofText).filter Option.isSome
      ∧ q.focus + 1 = p.cellCount ∧ q.selection = (1, 1) := by
  -- the pad before the last text, with all cells filled but one
  obtain ⟨a, ha, hlength, hfocus, hfilled⟩ :=
    typeAll_fills (p := p) before (by omega)
  rw [hzero, List.take_zero, List.nil_append] at hfilled
  have hend : a.focus + 1 = a.cellCount := by omega
  have hinside : a.focus < a.cells.length :=
    Nat.lt_of_succ_le (Nat.le_of_eq hend)
  obtain ⟨hcells, hmoved, hselection⟩ := store_last hend hlast
  have hsome : (Cell.ofText last).isSome = true := by
    rw [Cell.isSome_ofText, hlast]
  refine ⟨_, ?_, (store_cellCount ..).trans hlength, ?_, by omega, hselection⟩
  · rw [typeAll_append ha, typeAll_cons hinside]
    rfl
  · have hdrop : a.cells.drop (a.focus + 1) = [] :=
      List.drop_of_length_le (Nat.le_of_eq hend.symm)
    rw [hcells, List.set_eq_take_append_cons_drop, if_pos hinside, hdrop,
      hfilled, List.map_append, List.filter_append, List.map_singleton,
      List.filter_cons_of_pos hsome]
    rfl

/-- The cells that texts fill show their first digits. -/
theorem flatMap_filter_ofText (ts : List Text) :
    ((ts.map Cell.ofText).filter Option.isSome).flatMap Cell.text
      = (ts.filter (·.any CodePoint.isDigit)).flatMap Text.firstDigit := by
  induction ts with
  | nil => rfl
  | cons t ts ih =>
      rw [List.map_cons, List.filter_cons, List.filter_cons, Cell.isSome_ofText]
      split
      · rw [List.flatMap_cons, List.flatMap_cons, ih, Cell.text_ofText]
      · exact ih

end Pad

namespace Scene

/-- From whatever a pad of `n` cells has come to, also while a submission is
under way: the first cell is focused, and texts are typed at the focus, the
last of them the `n`th that has a digit. Every one is accepted. In the end
the pad shows their digits in order, is full, and has the focus on the last
cell with the caret behind its digit; what the cells held before, and the
texts without a digit, make no difference to it. Each of those clears the
focused cell and leaves the focus there. And whatever digits are typed
further on, the last of them replaces the one in the last cell, and focus
and caret stay. -/
theorem typing_fills_pad (u : Json) (c : Client) (n : Nat) (moves : List Move)
    (before : List Text) (last : Text)
    (hcount : before.countP (·.any CodePoint.isDigit) + 1 = n)
    (hlast : last.any CodePoint.isDigit = true) :
    let p := ((Scene.new u c n).run moves).pad
    ∃ first q, p.onFocus (.int 0) = .ok first
      ∧ first.typeAll (before ++ [last]) = .ok q
      ∧ q.candidate = ((before ++ [last]).filter
          (·.any CodePoint.isDigit)).flatMap Text.firstDigit
      ∧ q.submitEnabled = true
      ∧ q.focus = n - 1 ∧ q.selection = (1, 1)
      ∧ (∀ earlier t later, before = earlier ++ t :: later →
          t.any CodePoint.isDigit = false →
          ∃ a b, first.typeAll earlier = .ok a
            ∧ a.onInput (.int a.focus) (.str t) = .ok (none, b)
            ∧ b.cells = a.cells.set a.focus none
            ∧ b.focus = a.focus ∧ b.selection = (0, 0))
      ∧ ∀ more t, (∀ t' ∈ more, t'.any CodePoint.isDigit = true) →
          t.any CodePoint.isDigit = true →
          ∃ r, q.typeAll (more ++ [t]) = .ok r
            ∧ r.cells = q.cells.set (n - 1) (Cell.ofText t)
            ∧ r.focus = n - 1 ∧ r.selection = (1, 1) := by
  intro p
  have hcells : p.cellCount = n := cellCount_run u c n moves
  let first := { p with version := p.version + 1 }.select 0
  have hfirst : first.cellCount = n := hcells
  have hzero : first.focus = 0 := rfl
  have hopen : p.onFocus (.int 0) = .ok first :=
    Pad.onFocus_eq_ok.mpr ⟨0, Pad.index?_eq_ok.mpr ⟨rfl, by omega⟩, rfl⟩
  obtain ⟨q, hq, hlength, hshown, hend, hselection⟩ :=
    Pad.typeAll_full (p := first) hzero (hcount.trans hcells.symm) hlast
  have hfocus : q.focus = n - 1 := by omega
  refine ⟨first, q, hopen, hq, ?_, ?_, hfocus, hselection, ?_, ?_⟩
  · rw [Pad.candidate, hshown, Pad.flatMap_filter_ofText]
  · rw [Pad.submitEnabled, hshown, List.all_filter]
    exact List.all_eq_true.mpr fun c _ => by cases c.isSome <;> rfl
  · intro earlier t later hbefore ht
    have hle : earlier.countP (·.any CodePoint.isDigit)
        ≤ before.countP (·.any CodePoint.isDigit) := by
      rw [hbefore, List.countP_append]
      exact Nat.le_add_right _ _
    obtain ⟨a, ha, hcount', hfocus', -⟩ :=
      Pad.typeAll_fills (p := first) earlier (by omega)
    have hinside : a.focus < a.cellCount := by omega
    obtain ⟨b, hb⟩ := Pad.onInput_without_digit hinside ht
    exact ⟨a, b, ha, hb⟩
  · intro more t hmore ht
    rw [← hfocus]
    exact Pad.typeAll_last (hend.trans hlength.symm) hmore ht

/-- Two cells hold `9` and `9` and are being submitted. An `x4y` goes into the
first, an `abc` clears the second, and an Arabic-Indic three with a `2` behind
it fills that with `2`. -/
theorem typing_fills_pad_during_flight :
    let moves : List Move :=
      [.serve 0 (.input (.int 0) (.str "9")),
        .serve 0 (.input (.int 1) (.str "9")), .serve 1 .submit]
    let p :=
      ((Scene.new (.str "A1") ⟨"http://localhost", .null, {}⟩ 2).run moves).pad
    let before : List Text := ["x4y", "abc"]
    let last : Text := "٣2"
    p.phase = .submitting
      ∧ before.countP (·.any CodePoint.isDigit) + 1 = 2
      ∧ last.any CodePoint.isDigit = true
      ∧ ∃ first q, p.onFocus (.int 0) = .ok first
        ∧ first.typeAll (before ++ [last]) = .ok q
        ∧ q.candidate = "42" ∧ q.submitEnabled = true
        ∧ q.focus = 1 ∧ q.selection = (1, 1) := by
  intro moves p before last
  have hcount : before.countP (·.any CodePoint.isDigit) + 1 = 2 := by decide
  have hlast : last.any CodePoint.isDigit = true := by decide
  obtain ⟨first, q, hopen, htyped, hshown, henabled, hfocus, hselection, -⟩ :=
    typing_fills_pad
      (.str "A1") ⟨"http://localhost", .null, {}⟩ 2 moves before last
      hcount hlast
  exact ⟨by decide, hcount, hlast, first, q, hopen, htyped, hshown, henabled,
    hfocus, hselection⟩

end Scene

end DevicePairing
