/-
One call at a time.

A pad has a flag that says whether a submission is under way. The client
call is what the flag is about, but nothing ties the two together except
the sections that set and clear the flag, and they may come in any order.
This file shows how the flag stands to the call at every moment: it is
set exactly while a call is outstanding, or for good once a call was
interrupted. An interrupt is no answer, and no section clears the flag
behind it; so from there on nothing is sent, and nothing but inputs and
focus events still has an effect.

`Steady` is the invariant. How many calls there were is counted on the
trail, and how many there should have been on the moves: every submission
that meets a full pad with the flag down is one, and no other is. The
calls of a script are the requests that its answers say were sent, and
as many as those of the moves that it comes to.
-/
import DevicePairing.Proofs.Pad.Service

namespace DevicePairing

open Pad (Event)

-- ========================================================== vocabulary

/-- Whether a call was interrupted. -/
def Mark.isInterrupt : Mark → Bool
  | .raised _ f => f.family == .interrupt
  | _ => false

/-- What an accepted event does to cells, focus and version. -/
def Pad.Edited (p q : Pad) : Event → Prop
  | .input index raw =>
    ∃ i c, p.index? index = .ok i ∧ Cell.ofInput raw = .ok c
      ∧ q.cells = p.cells.set i c
      ∧ q.focus = (if c.isSome ∧ i + 1 < p.cellCount then i + 1 else i)
      ∧ q.version = p.version + 1
  | .focus index =>
    ∃ i, p.index? index = .ok i
      ∧ q.cells = p.cells ∧ q.focus = i ∧ q.version = p.version + 1
  | .submit => False
  | .observe => False

namespace Scene

/-- Whether some call was interrupted so far. -/
def isInterrupted (s : Scene) : Bool := s.trail.any Mark.isInterrupt

/-- How often the client was called so far. -/
def callCount (s : Scene) : Nat := s.trail.countP Mark.isSent

/-- Whether a move is a submission that is made with none under way and
every cell filled. -/
def isDue (s : Scene) : Move → Bool
  | .serve _ .submit => !s.pad.inFlight && s.pad.submitEnabled
  | _ => false

/-- How many of some moves are such submissions, each at its moment. -/
def dueCount (s : Scene) : List Move → Nat
  | [] => 0
  | m :: moves => (if s.isDue m then 1 else 0) + (s.step m).dueCount moves

-- ============================================================ the flag

/-- How the flag stands to the calls. -/
structure Steady (s : Scene) : Prop where
  single : s.calls.length ≤ 1
  flag : s.pad.inFlight = true ↔ s.calls ≠ [] ∨ s.isInterrupted = true
  ended : s.isInterrupted = true → s.calls = []

variable {s s' : Scene}

theorem steady_new (u : Json) (c : Client) (n : Nat) : Steady (.new u c n) where
  single := Nat.zero_le 1
  flag := by simp [new, Pad.new, isInterrupted]
  ended _ := rfl

theorem isInterrupted_snoc (p : Pad) (calls : List Call) (m : Mark) :
    isInterrupted ⟨p, calls, s.trail ++ [m]⟩
      = (s.isInterrupted || m.isInterrupt) := by
  simp [isInterrupted]

/-- A change that touches neither the calls nor the flag. -/
theorem Steady.snoc (h : s.Steady) {p : Pad} {m : Mark}
    (hflag : p.inFlight = s.pad.inFlight) (hm : m.isInterrupt = false) :
    Steady ⟨p, s.calls, s.trail ++ [m]⟩ := by
  have hsame : isInterrupted ⟨p, s.calls, s.trail ++ [m]⟩
      = s.isInterrupted := by
    rw [isInterrupted_snoc, hm, Bool.or_false]
  refine ⟨h.single, ?_, ?_⟩
  · rw [hsame]
    show p.inFlight = true ↔ _
    rw [hflag]
    exact h.flag
  · rw [hsame]
    exact h.ended

/-- A submission goes out only with no call outstanding and none ever
interrupted. -/
theorem Steady.sent (h : s.Steady) (hr : s.pad.refusal? = none) (now : Int) :
    (s.depart now).Steady := by
  have hfree : s.pad.inFlight ≠ true := by
    rw [((Pad.refusal?_eq_none _).mp hr).1]
    exact Bool.false_ne_true
  rw [Ne, h.flag, not_or, Bool.not_eq_true] at hfree
  have hnil : s.calls = [] := Decidable.not_not.mp hfree.1
  have hnever : s.isInterrupted = false := hfree.2
  have hstill : (s.depart now).isInterrupted = false := by
    rw [depart, isInterrupted_snoc, hnever]
    rfl
  refine ⟨by simp [depart, hnil], ?_, ?_⟩
  · rw [hstill]
    simp [depart, Pad.depart]
  · rw [hstill]
    exact fun hyes => absurd hyes Bool.false_ne_true

/-- The end of the call, which was the only one and not interrupted before,
leaves the flag up exactly if it is an interrupt. -/
theorem Steady.settled (h : s.Steady) {place : Nat} {call : Call}
    (hcall : s.calls[place]? = some call) {p : Pad} {m : Mark}
    (hflag : p.inFlight = m.isInterrupt) :
    Steady ⟨p, s.calls.eraseIdx place, s.trail ++ [m]⟩ := by
  obtain ⟨hlt, -⟩ := List.getElem?_eq_some_iff.mp hcall
  have hsingle := h.single
  have hnil : s.calls.eraseIdx place = [] := by
    apply List.eq_nil_of_length_eq_zero
    rw [List.length_eraseIdx_of_lt hlt]
    omega
  have hnever : s.isInterrupted = false := by
    rw [← Bool.not_eq_true]
    intro hyes
    rw [h.ended hyes] at hlt
    exact absurd hlt (Nat.not_lt_zero _)
  refine ⟨by simp [hnil], ?_, fun _ => hnil⟩
  rw [isInterrupted_snoc, hnever, Bool.false_or]
  show p.inFlight = true ↔ _
  rw [hflag]
  simp [hnil]

/-- Every change keeps the flag in its place. -/
theorem Change.steady (hch : Change s s') (h : s.Steady) : s'.Steady := by
  cases hch with
  | nothing => exact h
  | typed hi hc => exact h.snoc (Pad.store_inFlight ..) rfl
  | focused hi => exact h.snoc rfl rfl
  | sent hr => exact h.sent hr _
  | returned hcall ho hs => exact h.settled hcall rfl
  | raised hcall hf hn =>
      exact h.settled hcall (beq_eq_false_iff_ne.mpr hn).symm
  | interrupted hcall hf hn =>
      have hne : s.calls ≠ [] := by
        intro hnil
        rw [hnil] at hcall
        cases hcall
      refine h.settled hcall ((h.flag.mpr (.inl hne)).trans ?_)
      exact (beq_iff_eq.mpr hn).symm

theorem steady_run (u : Json) (c : Client) (n : Nat) (moves : List Move) :
    ((Scene.new u c n).run moves).Steady :=
  run_induction (fun _ _ hch => hch.steady) moves _ (steady_new u c n)

-- ============================================================ the count

/-- The client is called once for a submission that is due, and for no
other move. -/
theorem step_callCount (s : Scene) (m : Move) :
    (s.step m).callCount = s.callCount + if s.isDue m then 1 else 0 := by
  cases m with
  | serve now event =>
      cases event with
      | input index raw =>
          simp only [step, serve, isDue]
          split <;> simp [callCount, Mark.isSent]
      | focus index =>
          simp only [step, serve, isDue]
          split <;> simp [callCount, Mark.isSent]
      | observe => rfl
      | submit =>
          have hdue : s.isDue (.serve now .submit) = true
              ↔ s.pad.refusal? = none := by
            simp [isDue, Pad.refusal?_eq_none]
          simp only [step, serve]
          split
          · rename_i hr
            rw [if_pos (hdue.mpr hr)]
            simp [depart, callCount, Mark.isSent]
          · rename_i line hr
            have hnot : s.isDue (.serve now .submit) ≠ true := by
              rw [Ne, hdue, hr]
              exact Option.some_ne_none line
            rw [if_neg hnot, Nat.add_zero]
  | reply place now ending =>
      simp only [step, isDue, Bool.false_eq_true, if_false, Nat.add_zero]
      split
      · rename_i call hcall
        have hnone : ∀ answer, (Mark.ofAnswer call ending answer).countP
            Mark.isSent = 0 := by
          intro answer
          unfold Mark.ofAnswer
          split <;> rfl
        simp only [settle, callCount, List.countP_append, hnone, Nat.add_zero]
      · rfl

/-- Along a run the client is called as often as a submission is due. -/
theorem run_callCount (s : Scene) (moves : List Move) :
    (s.run moves).callCount = s.callCount + s.dueCount moves := by
  induction moves generalizing s with
  | nil => rfl
  | cons m moves ih =>
      rw [run_cons, ih, step_callCount, dueCount, Nat.add_assoc]

/-- The calls that are told of are the calls on the trail. -/
theorem countP_told (s : Scene) : s.told.countP Told.isSent = s.callCount := by
  unfold told callCount
  rw [List.countP_map]
  exact congrArg (List.countP · s.trail)
    (funext fun m => m.isSent_told s.pad.client)

-- ============================================================== refusal

/-- A pad with its flag up takes no submission: it gives nothing back,
sends nothing and stays as it is. -/
theorem submit_refused (h : s.pad.inFlight = true) (now : Int) :
    s.serve now .submit = s
      ∧ ∃ line, Pad.start now .submit s.pad
        = (⟨.done (.ok (.submitted none)), [line]⟩, s.pad) := by
  obtain ⟨line, hline⟩ : ∃ line, s.pad.refusal? = some line := by
    rw [Pad.refusal?, if_pos h]
    exact ⟨_, rfl⟩
  refine ⟨?_, line, ?_⟩
  · simp only [serve, hline]
  · simp only [Pad.start, Pad.startSubmit_of_refusal hline]
    rfl

theorem isDue_of_inFlight (h : s.pad.inFlight = true) (m : Move) :
    s.isDue m = false := by
  unfold isDue
  split
  · rw [h]
    rfl
  · rfl

-- ========================================================== interrupted

/-- What was interrupted stays so. -/
theorem Change.isInterrupted (hch : Change s s')
    (h : s.isInterrupted = true) : s'.isInterrupted = true := by
  have hsnoc (p : Pad) (calls : List Call) (m : Mark) :
      Scene.isInterrupted ⟨p, calls, s.trail ++ [m]⟩ = true := by
    rw [isInterrupted_snoc, h, Bool.true_or]
  cases hch with
  | nothing => exact h
  | _ => exact hsnoc ..

/-- From an interrupt on the flag is up, no call is outstanding, and none
is made. -/
theorem run_interrupted (hs : s.Steady) (h : s.isInterrupted = true)
    (moves : List Move) :
    (s.run moves).pad.inFlight = true ∧ (s.run moves).calls = []
      ∧ (s.run moves).callCount = s.callCount := by
  induction moves generalizing s with
  | nil => exact ⟨hs.flag.mpr (.inr h), hs.ended h, rfl⟩
  | cons m moves ih =>
      have hch := step_change s m
      have hdue : s.isDue m = false :=
        isDue_of_inFlight (hs.flag.mpr (.inr h)) m
      obtain ⟨hflag, hcalls, hcount⟩ := ih (hch.steady hs) (hch.isInterrupted h)
      refine ⟨hflag, hcalls, ?_⟩
      rw [run_cons, hcount, step_callCount, hdue]
      rfl

/-- An accepted event has its effect, whatever is under way. -/
theorem edited_of_accepts {e : Event} (h : s.pad.accepts e = true)
    (now : Int) : s.pad.Edited (s.serve now e).pad e := by
  cases e with
  | input index raw =>
      simp only [Pad.accepts, Bool.and_eq_true] at h
      cases hi : s.pad.index? index with
      | error f => simp [hi, Except.toBool] at h
      | ok i =>
          cases hc : Cell.ofInput raw with
          | error f => simp [hc, Except.toBool] at h
          | ok c =>
              have hok : s.pad.onInput index raw = .ok (c, s.pad.store i c) :=
                Pad.onInput_eq_ok.mpr ⟨i, hi, hc, rfl⟩
              simp only [serve, hok]
              exact ⟨i, c, hi, hc, Pad.store_cells .., Pad.store_focus ..,
                Pad.store_version ..⟩
  | focus index =>
      simp only [Pad.accepts] at h
      cases hi : s.pad.index? index with
      | error f => simp [hi, Except.toBool] at h
      | ok i =>
          simp only [serve, Pad.onFocus_eq_ok.mpr ⟨i, hi, rfl⟩]
          exact ⟨i, hi, rfl, rfl, rfl⟩
  | submit => cases h
  | observe => cases h

-- ============================================================== scripts

/-- What is served while a pad's flag is up sends nothing and waits for
nothing. -/
theorem silent_of_inFlight (now : Int) :
    ∀ (steps : List (Step Event)) {s : Scene}, s.pad.inFlight = true →
      ∀ b ∈ (Pad.service.runSteps now s.pad steps).1,
        b.sent = none ∧ b.nested = []
  | [], _, _ => fun _ hb => absurd hb List.not_mem_nil
  | ⟨action, delay, during, ending⟩ :: steps, s, h => by
      have hrefused : action = .submit → s.pad.refusal? ≠ none :=
        fun _ => Pad.refusal?_of_inFlight h
      obtain ⟨result, log, hstart, -⟩ := start_of_unsent hrefused now
      rw [Service.runSteps_cons, Service.runStep_done hstart]
      exact List.forall_mem_cons.mpr ⟨⟨rfl, rfl⟩,
        silent_of_inFlight now steps (meanwhile_serve h now action).held⟩

/-- However steps are scripted, nothing is sent while a request is
awaited. -/
theorem nested_silent (now : Int) :
    ∀ (steps : List (Step Event)) (p : Pad),
      ∀ a ∈ (Pad.service.runSteps now p steps).1,
        ∀ b ∈ a.nested, b.sent = none ∧ b.nested = []
  | [], _ => fun _ ha => absurd ha List.not_mem_nil
  | ⟨action, delay, during, ending⟩ :: steps, p => by
      rw [Service.runSteps_cons]
      refine List.forall_mem_cons.mpr ⟨?_, nested_silent _ steps _⟩
      rcases start_cases ⟨p, [], []⟩ now action with
        ⟨result, log, moves, hstart, -⟩ | ⟨request, log, -, -, -, hstart⟩
      · rw [Service.runStep_done hstart]
        exact fun _ hb => absurd hb List.not_mem_nil
      · rw [Service.runStep_waiting hstart]
        exact silent_of_inFlight (now + delay) during
          (s := ⟨p.depart, [], []⟩) rfl

/-- Whatever state a script shows, its answers tell up to there of a call
for every submission that was due on the way. -/
theorem calls_told (s : Scene) (now : Int) (steps : List (Step Event)) :
    let answers := (Pad.service.runSteps now s.pad steps).1
    ∀ view ∈ Step.allViews s.told steps answers, ∃ more,
      (s.run more).pad = view.2 ∧ (s.run more).told = view.1
        ∧ view.1.countP Told.isSent = s.callCount + s.dueCount more := by
  intro answers view hview
  obtain ⟨more, hpad, htold⟩ := s.shows_of_script now steps view hview
  refine ⟨more, hpad, htold, ?_⟩
  rw [← htold, countP_told, run_callCount]

-- ========================================================= the property

/-- At most one call of the client is outstanding, and while one is, a
submission gives nothing back and changes nothing. The client is called
once for every submission made with none under way and every cell filled.
Unless a call was interrupted, the flag is up exactly while a call is
outstanding; after an interrupt the pad is submitting for good and calls
the client no more, and inputs and focus events go on as ever. Scripts are
no exception: nothing is sent while a request is awaited, and every state
that an answer shows comes with as many calls, by what the answers tell,
as submissions were due. -/
theorem one_call_at_a_time (u : Json) (c : Client) (n : Nat)
    (moves : List Move) :
    let first := Scene.new u c n
    let s := first.run moves
    s.calls.length ≤ 1
      ∧ (s.calls ≠ [] → ∀ now, s.serve now .submit = s
        ∧ ∃ line, Pad.start now .submit s.pad
          = (⟨.done (.ok (.submitted none)), [line]⟩, s.pad))
      ∧ s.callCount = first.dueCount moves
      ∧ (s.isInterrupted = false → (s.pad.inFlight = true ↔ s.calls ≠ []))
      ∧ (s.isInterrupted = true → ∀ more,
          let t := s.run more
          t.pad.phase = .submitting ∧ t.calls = []
            ∧ t.callCount = s.callCount
            ∧ ∀ now e, t.pad.accepts e = true →
              t.pad.Edited (t.serve now e).pad e)
      ∧ (∀ now steps, ∀ a ∈ (Pad.service.runSteps now s.pad steps).1,
          ∀ b ∈ a.nested, b.sent = none ∧ b.nested = [])
      ∧ ∀ now steps,
          let answers := (Pad.service.runSteps now s.pad steps).1
          ∀ view ∈ Step.allViews s.told steps answers, ∃ more,
            (s.run more).pad = view.2 ∧ (s.run more).told = view.1
              ∧ view.1.countP Told.isSent
                = s.callCount + s.dueCount more := by
  intro first s
  have hsteady : s.Steady := steady_run u c n moves
  refine ⟨hsteady.single, ?_, ?_, ?_, ?_, ?_, s.calls_told⟩
  · intro hne now
    exact submit_refused (hsteady.flag.mpr (.inl hne)) now
  · have hcount := run_callCount first moves
    have hzero : first.callCount = 0 := rfl
    rw [hzero, Nat.zero_add] at hcount
    exact hcount
  · intro hnever
    rw [hsteady.flag, hnever]
    simp
  · intro hyes more t
    obtain ⟨hflag, hcalls, hcount⟩ := run_interrupted hsteady hyes more
    refine ⟨?_, hcalls, hcount, fun now e ha => edited_of_accepts ha now⟩
    rw [Pad.phase, if_pos hflag]
  · intro now steps
    exact nested_silent now steps s.pad

end Scene

end DevicePairing
