/-
When a submission goes out.

A page offers the button for submissions by one question, whether every
cell is filled, and the pad lets a submission out by another, whether its
digits are as many as its cells. Both are the same because no cell ever
shows more than one digit (`length_candidate`).

The phase is a third account of it, and it says less about the cells: it
is read off the flight and the verdict first. That the phase tells the
gate all the same is the work of `Sound`: a verdict is never kept for a
pad with an empty cell, whatever was edited, sent or abandoned before.
-/
import Mathlib.Data.List.Forall2
import DevicePairing.Proofs.Pad.Cell
import DevicePairing.Proofs.Pad.Service
import DevicePairing.Proofs.Pad.Verdict

namespace DevicePairing

-- ============================================================ vocabulary

/-- Whether a submission goes out in a phase. -/
def Phase.IsOpen (phase : Phase) : Prop :=
  phase = .ready ∨ phase = .success ∨ phase = .error

namespace Pad

/-- A PIN is what some cells show: a digit for each, in their order. -/
def Shows (cells : List Cell) (pin : Text) : Prop :=
  List.Forall₂ (fun p cell => p.isDigit = true ∧ Cell.text cell = [p]) pin cells

/-- How a submission begins for which the client is called: its request is
under way, or cannot be made, and then the call has ended at once. -/
def Calls (p : Pad) (now : Int) (call : Call) : Prop :=
  (∃ request, p.client.request call.submission = .ok request
      ∧ p.startSubmit now
        = (⟨.waiting request call.flight, [p.departureLine]⟩, p.depart))
    ∨ ∃ f, p.client.request call.submission = .error f
      ∧ let r := p.depart.finishSubmit now call.flight (.fault f)
        p.startSubmit now
          = (⟨.done r.1.value, p.departureLine :: r.1.log⟩, r.2)

-- ================================================================= cells

/-- A cell shows nothing, or one digit. -/
theorem text_cases (cell : Cell) :
    cell.text = [] ∨ ∃ p, CodePoint.isDigit p = true ∧ cell.text = [p] := by
  cases cell with
  | none => exact .inl rfl
  | some d => exact .inr ⟨.char d.char, d.isDigit_char, rfl⟩

/-- The digits entered are as many as the cells that show one. -/
theorem length_candidate (p : Pad) :
    p.candidate.length = p.cells.countP fun cell => cell.text ≠ [] := by
  unfold candidate
  induction p.cells with
  | nil => rfl
  | cons cell cells ih =>
      rw [List.flatMap_cons, List.length_append, ih, List.countP_cons,
        Nat.add_comm]
      congr 1
      cases cell <;> rfl

/-- Cells that are all filled show the digits entered. -/
theorem shows_of_full {cells : List Cell} (h : cells.all Option.isSome = true) :
    Shows cells (cells.flatMap Cell.text) := by
  induction cells with
  | nil => exact .nil
  | cons cell cells ih =>
      rw [List.all_cons, Bool.and_eq_true] at h
      obtain hnone | ⟨p, hp, htext⟩ := text_cases cell
      · cases cell with
        | none => cases h.1
        | some d => cases hnone
      · rw [List.flatMap_cons, htext]
        exact .cons ⟨hp, htext⟩ (ih h.2)

-- ================================================================ phases

theorem phase_eq_submitting {p : Pad} :
    p.phase = .submitting ↔ p.inFlight = true := by
  rw [phase_eq]
  grind

/-- An idle pad has an empty cell, and a ready one has none. -/
theorem submitEnabled_of_phase {p : Pad} :
    (p.phase = .idle → p.submitEnabled = false)
      ∧ (p.phase = .ready → p.submitEnabled = true) := by
  rw [phase_eq]
  grind

/-- If no verdict is kept for a pad with an empty cell, then the phases in
which a submission goes out are those of a full pad without a flight. -/
theorem isOpen_phase {p : Pad}
    (hverdict : p.verdict ≠ none → p.submitEnabled = true) :
    p.phase.IsOpen ↔ p.inFlight = false ∧ p.submitEnabled = true := by
  unfold Phase.IsOpen
  rw [phase_eq]
  rcases hv : p.verdict with _ | v
  · grind
  · have hfull := hverdict (by rw [hv]; exact Option.some_ne_none v)
    cases v <;> grind

/-- A submission that goes out begins with a call of the client. -/
theorem calls_of_open {p : Pad} (hgo : p.refusal? = none) (now : Int) :
    p.Calls now ⟨p.submission, ⟨p.generation, now⟩⟩ := by
  cases hrequest : p.client.request p.submission with
  | ok request =>
      exact .inl ⟨request, hrequest, startSubmit_of_sent hgo hrequest now⟩
  | error f => exact .inr ⟨f, hrequest, startSubmit_of_unsent hgo hrequest now⟩

end Pad

namespace Scene

/-- In every run the phases in which a submission goes out are those that
stand for it. -/
theorem isOpen_run (u : Json) (c : Client) (n : Nat) (moves : List Move) :
    let s := (Scene.new u c n).run moves
    s.pad.phase.IsOpen
      ↔ s.pad.inFlight = false ∧ s.pad.submitEnabled = true := by
  intro s
  refine Pad.isOpen_phase fun hne => ?_
  obtain ⟨v, hv⟩ := Option.ne_none_iff_exists'.mp hne
  exact ((sound_run u c n moves).backed v hv).1

/-- A submission that is served adds a call of the client exactly if the pad
does not refuse it, and then it is this one. -/
theorem serve_submit_calls (s : Scene) (now : Int) (call : Call) :
    (s.serve now .submit).calls = s.calls ++ [call]
      ↔ s.pad.refusal? = none
        ∧ call = ⟨s.pad.submission, ⟨s.pad.generation, now⟩⟩ := by
  unfold serve
  cases s.pad.refusal? with
  | none =>
      simp only [depart, List.append_cancel_left_eq, List.cons.injEq, and_true,
        true_and]
      exact eq_comm
  | some line => simp

-- ============================================================== the gate

/-- At every moment, also while a submission is under way: each cell shows
nothing or one digit; the length that is shown is the number of cells that
show one, and the button is offered exactly if that is every cell; the
flight is shown exactly in its own phase, an idle pad does not offer the
button, and a ready one and one with a verdict do. So the client is called
exactly if the phase before is one of those three, that is, if no
submission is under way and the button is offered; and what it is asked to
submit is the digit of every cell, in order. Otherwise nothing is sent and
nothing changes. -/
theorem phase_tells_gate (u : Json) (c : Client) (n : Nat) (moves : List Move) :
    let s := (Scene.new u c n).run moves
    let shown := s.pad.snapshot
    shown.cells.length = n
      ∧ (∀ cell ∈ shown.cells, cell.text = []
        ∨ ∃ p, CodePoint.isDigit p = true ∧ cell.text = [p])
      ∧ shown.pinLength = shown.cells.countP (fun cell => cell.text ≠ [])
      ∧ (shown.submitEnabled = true ↔ shown.pinLength = n)
      ∧ (shown.submitting = true ↔ shown.phase = .submitting)
      ∧ (shown.phase = .idle → shown.submitEnabled = false)
      ∧ (shown.phase.IsOpen → shown.submitEnabled = true)
      ∧ (shown.phase.IsOpen
        ↔ s.pad.inFlight = false ∧ shown.submitEnabled = true)
      ∧ ∀ now,
          ((∃ call, (s.serve now .submit).calls = s.calls ++ [call])
            ↔ shown.phase.IsOpen)
          ∧ (∀ call, (s.serve now .submit).calls = s.calls ++ [call] →
              s.pad.Calls now call
                ∧ call.submission = ⟨u, .str s.pad.candidate⟩
                ∧ Pad.Shows shown.cells s.pad.candidate)
          ∧ (¬shown.phase.IsOpen →
              s.serve now .submit = s
                ∧ ∃ line, s.pad.startSubmit now
                  = (⟨.done (.ok none), [line]⟩, s.pad)) := by
  intro s shown
  obtain ⟨hcells, -, huniqueId⟩ := run_frame (Scene.new u c n) moves
  have hlength : s.pad.cells.length = n := hcells.trans List.length_replicate
  have hopen : s.pad.phase.IsOpen
      ↔ s.pad.inFlight = false ∧ s.pad.submitEnabled = true :=
    isOpen_run u c n moves
  have hgo : s.pad.refusal? = none ↔ s.pad.phase.IsOpen :=
    (Pad.refusal?_eq_none _).trans hopen.symm
  refine ⟨hlength, fun cell _ => Pad.text_cases cell, Pad.length_candidate _,
    ?_, Pad.phase_eq_submitting.symm, Pad.submitEnabled_of_phase.1,
    fun h => (hopen.mp h).2, hopen, fun now => ⟨?_, ?_, ?_⟩⟩
  · rw [← hlength]
    exact Pad.submitEnabled_iff _
  · simp only [serve_submit_calls, exists_and_left, exists_eq, and_true]
    exact hgo
  · intro call hcall
    obtain ⟨hnone, rfl⟩ := (serve_submit_calls s now call).mp hcall
    have hfull : s.pad.submitEnabled = true := (hopen.mp (hgo.mp hnone)).2
    refine ⟨Pad.calls_of_open hnone now, ?_, Pad.shows_of_full hfull⟩
    show (⟨s.pad.uniqueId, .str s.pad.candidate⟩ : Submission) = _
    rw [huniqueId]
    rfl
  · intro hclosed
    obtain ⟨line, hline⟩ :=
      Option.ne_none_iff_exists'.mp fun hnone => hclosed (hgo.mp hnone)
    refine ⟨?_, line, Pad.startSubmit_of_refusal hline now⟩
    simp only [serve, hline]

end Scene

end DevicePairing
