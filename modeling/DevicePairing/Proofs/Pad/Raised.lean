/-
A submission that raises.

A call of the client may end in a fault that is no outcome: the device
cannot be spelled in a URL, the time cannot be told, something broke on
the way. The pad hands the fault on, and should be left as if the
submission had not been made, while everything else that happened in the
meantime counts.

What was served meanwhile was served on a pad in flight. So the question
is whether an event acts on such a pad as it acts on one at rest. It does,
but for submissions, which a flight keeps out: an event that is served
after a departure leaves what serving it before the departure would have
left (`serve_depart`). That moves the departure past all of the events,
and there the landing undoes it, the version apart.
-/
import DevicePairing.Proofs.Pad.Gate
import DevicePairing.Proofs.Pad.Outstanding

namespace DevicePairing

namespace Pad

/-- Whether an event is a submission. -/
def Event.isSubmit : Event → Bool
  | .submit => true
  | _ => false

-- ============================================ events on a pad in flight

section Depart

variable (p : Pad)

theorem store_depart (i : Nat) (c : Cell) :
    p.depart.store i c = (p.store i c).depart := by
  have hcount : p.depart.cellCount = p.cellCount := rfl
  unfold store
  rw [hcount]
  split <;> rfl

theorem onInput_depart (index raw : Json) :
    p.depart.onInput index raw
      = (p.onInput index raw).map fun r => (r.1, r.2.depart) := by
  have hindex : p.depart.index? index = p.index? index := rfl
  unfold onInput
  rw [hindex]
  cases p.index? index with
  | error f => rfl
  | ok i =>
      cases Cell.ofInput raw with
      | error f => rfl
      | ok c =>
          show Except.ok (c, p.depart.store i c)
            = Except.ok (c, (p.store i c).depart)
          rw [store_depart]

theorem onFocus_depart (index : Json) :
    p.depart.onFocus index = (p.onFocus index).map depart := by
  have hindex : p.depart.index? index = p.index? index := rfl
  unfold onFocus
  rw [hindex]
  cases p.index? index <;> rfl

end Depart

/-- The phase is read off the flight, the verdict and the cells. -/
theorem phase_congr {p q : Pad} (hflight : p.inFlight = q.inFlight)
    (hverdict : p.verdict = q.verdict) (hcells : p.cells = q.cells) :
    p.phase = q.phase := by
  rw [phase_eq, phase_eq, submitEnabled, submitEnabled, hflight,
    hverdict, hcells]

/-- A departure that is landed leaves the version two higher, and nothing
else, on a pad that had no submission under way. -/
theorem land_depart {p : Pad} (h : p.inFlight = false) :
    p.depart.land = { p with version := p.version + 2 } := by
  unfold land depart
  rw [← h]

end Pad

namespace Scene

open Pad (Event)

/-- An event other than a submission acts on a pad in flight as it acts on
the pad at rest, and lets neither out of its state. -/
theorem serve_depart {s t : Scene} (h : t.pad = s.pad.depart) {e : Event}
    (he : e.isSubmit = false) (now : Int) :
    (t.serve now e).pad = (s.serve now e).pad.depart
      ∧ (s.serve now e).pad.inFlight = s.pad.inFlight := by
  cases e with
  | input index raw =>
      have hinput := s.pad.onInput_depart index raw
      simp only [serve, h, hinput]
      cases hok : s.pad.onInput index raw with
      | error f => exact ⟨h, rfl⟩
      | ok r =>
          obtain ⟨c, q⟩ := r
          obtain ⟨i, -, -, rfl⟩ := Pad.onInput_eq_ok.mp hok
          exact ⟨rfl, Pad.store_inFlight ..⟩
  | focus index =>
      have hfocus := s.pad.onFocus_depart index
      simp only [serve, h, hfocus]
      cases hok : s.pad.onFocus index with
      | error f => exact ⟨h, rfl⟩
      | ok q =>
          obtain ⟨i, -, rfl⟩ := Pad.onFocus_eq_ok.mp hok
          exact ⟨rfl, rfl⟩
  | submit => cases he
  | observe => exact ⟨h, rfl⟩

/-- What is served during a flight leaves the pad that serving it at rest
leaves, without the submissions, as it is in flight. -/
theorem serveAll_depart (events : List (Int × Event)) {s t : Scene}
    (h : t.pad = s.pad.depart) :
    let calm := s.serveAll (events.filter fun e => !e.2.isSubmit)
    (t.serveAll events).pad = calm.pad.depart
      ∧ calm.pad.inFlight = s.pad.inFlight := by
  induction events generalizing s t with
  | nil => exact ⟨h, rfl⟩
  | cons e events ih =>
      obtain ⟨now, e⟩ := e
      cases he : e.isSubmit with
      | false =>
          obtain ⟨hnext, hflight⟩ := serve_depart h he now
          obtain ⟨hpad, hcalm⟩ := ih hnext
          rw [List.filter_cons_of_pos (by simp [he])]
          exact ⟨hpad, hcalm.trans hflight⟩
      | true =>
          -- a submission is refused, since one is under way
          have hsame : t.serve now e = t := by
            cases e with
            | submit =>
                have hup : t.pad.inFlight = true := by rw [h]; rfl
                exact (submit_refused hup now).1
            | _ => cases he
          rw [List.filter_cons_of_neg (by simp [he])]
          show ((t.serve now e).serveAll events).pad = _ ∧ _
          rw [hsame]
          exact ih h

-- ============================================================ no trace

section Raised

variable {s : Scene} {now later : Int} {ending : Ending} {f : Fault}

/-- A call that ends in a fault which is no interrupt hands it on and lands
the pad. What is landed is the pad that the events served meanwhile leave at
rest, submissions left out, as it is in flight. -/
theorem finishSubmit_raised (hgo : s.pad.refusal? = none)
    (during : List (Int × Event))
    (hraised : (s.pad.client.finish later now ending).value = .error f)
    (hf : f.family = .other) :
    let p := ((s.serve now .submit).serveAll during).pad
    let r := p.finishSubmit later ⟨s.pad.generation, now⟩ ending
    let calm := (s.serveAll (during.filter fun e => !e.2.isSubmit)).pad
    r.1.value = .error f ∧ r.2 = p.land
      ∧ p = calm.depart ∧ calm.inFlight = false := by
  intro p r calm
  obtain ⟨hserve, hmean⟩ := meanwhile_submit hgo now during
  have hrest : s.pad.inFlight = false := ((Pad.refusal?_eq_none _).mp hgo).1
  have hdepart : (s.serve now .submit).pad = s.pad.depart := by rw [hserve]; rfl
  obtain ⟨hpad, hcalm⟩ := serveAll_depart during hdepart
  have hclient : p.client = s.pad.client := hmean.client
  rw [← hclient] at hraised
  obtain ⟨hvalue, hleft⟩ :=
    Pad.finishSubmit_of_error ⟨s.pad.generation, now⟩ hraised
  refine ⟨hvalue, ?_, hpad, hcalm.trans hrest⟩
  rw [hleft, hf, if_neg (by decide)]

/-- If no input was accepted meanwhile, the phase is what it was. -/
theorem phase_land (hgo : s.pad.refusal? = none) (during : List (Int × Event))
    (hnone : (during.any fun e => s.pad.acceptsInput e.2) = false) :
    ((s.serve now .submit).serveAll during).pad.land.phase = s.pad.phase := by
  have hrest : s.pad.inFlight = false := ((Pad.refusal?_eq_none _).mp hgo).1
  obtain ⟨-, hmean⟩ := meanwhile_submit hgo now during
  have hedits : edits (s.depart now).pad during = 0 := by
    apply List.countP_eq_zero.mpr
    intro e he
    exact List.any_eq_false.mp hnone e he
  obtain ⟨hcells, hverdict⟩ := hmean.untouched hedits
  exact Pad.phase_congr hrest.symm hverdict hcells

/-- A submission whose request cannot be made, by no fault of the request,
leaves nothing but a version that is two higher. -/
theorem runStep_unsent_raised (hgo : s.pad.refusal? = none)
    (hrequest : s.pad.client.request s.pad.submission = .error f)
    (hf : f.family = .other) (delay : Int) (steps : List (Step Event)) :
    let answer :=
      Pad.service.runStep now s.pad ⟨.submit, delay, steps, ending⟩
    answer.1.result = .error f
      ∧ answer.2.2 = { s.pad with version := s.pad.version + 2 } := by
  have hraised : (s.pad.client.finish now now (.fault f)).value = .error f :=
    Client.finish_of_other hf
  have hrest : s.pad.inFlight = false := ((Pad.refusal?_eq_none _).mp hgo).1
  obtain ⟨hvalue, hland, hdepart, -⟩ := finishSubmit_raised hgo [] hraised hf
  have hscript : s.Scripted now ⟨.submit, delay, steps, ending⟩ now []
      (.fault f) := .unsent hrequest delay steps ending
  obtain ⟨hresult, hleft⟩ := runStep_submit hgo hscript
  refine ⟨?_, ?_⟩
  · rw [hresult, hvalue]
    rfl
  · rw [hleft, hland, hdepart]
    exact Pad.land_depart hrest

end Raised

/-- A submission goes out, and the call ends in a fault that is neither an
outcome nor an interrupt. Then the fault is handed on, and the pad is what
it is after the events served meanwhile alone, without the submissions
among them: in every field, but for a version that is two higher. So the
phase, which allowed a submission, is what it was if no input was accepted
meanwhile, and if every cell is filled the next submission calls the client
again. A scripted submission comes to the same, and one whose request
cannot be made to nothing but the two versions. -/
theorem raised_submission_leaves_no_trace (u : Json) (c : Client) (n : Nat)
    (moves : List Move) (now later : Int) (during : List (Int × Event))
    (ending : Ending) (f : Fault)
    (hgo : ((Scene.new u c n).run moves).pad.refusal? = none)
    (hraised : (c.finish later now ending).value = .error f)
    (hf : f.family = .other) :
    let s := (Scene.new u c n).run moves
    let p := ((s.serve now .submit).serveAll during).pad
    let r := p.finishSubmit later ⟨s.pad.generation, now⟩ ending
    let calm := (s.serveAll (during.filter fun e => !e.2.isSubmit)).pad
    r.1.value = .error f
      ∧ r.2 = { calm with version := calm.version + 2 }
      ∧ s.pad.phase.IsOpen
      ∧ ((during.any fun e => s.pad.acceptsInput e.2) = false →
          r.2.phase = s.pad.phase)
      ∧ (∀ again, r.2.submitEnabled = true →
          r.2.Calls again ⟨r.2.submission, ⟨r.2.generation, again⟩⟩)
      ∧ (∀ request delay steps,
          c.request s.pad.submission = .ok request → later = now + delay →
          during = steps.map (fun step => (later, step.action)) →
          let answer :=
            Pad.service.runStep now s.pad ⟨.submit, delay, steps, ending⟩
          answer.1.result = .error f ∧ answer.2.2 = r.2)
      ∧ ∀ g delay steps ending',
          c.request s.pad.submission = .error g → g.family = .other →
          let answer :=
            Pad.service.runStep now s.pad ⟨.submit, delay, steps, ending'⟩
          answer.1.result = .error g
            ∧ answer.2.2 = { s.pad with version := s.pad.version + 2 } := by
  intro s p r calm
  have hclient : s.pad.client = c := (run_frame (Scene.new u c n) moves).2.1
  rw [← hclient] at hraised
  obtain ⟨hvalue, hland, hdepart, hcalm⟩ :=
    finishSubmit_raised hgo during hraised hf
  have hleft : r.2 = { calm with version := calm.version + 2 } := by
    calc r.2 = p.land := hland
      _ = calm.depart.land := congrArg Pad.land hdepart
      _ = { calm with version := calm.version + 2 } := Pad.land_depart hcalm
  refine ⟨hvalue, hleft, ?_, ?_, ?_, ?_, ?_⟩
  · exact (isOpen_run u c n moves).mpr ((Pad.refusal?_eq_none _).mp hgo)
  · intro hnone
    rw [hland]
    exact phase_land hgo during hnone
  · intro again hfull
    have hrest : r.2.inFlight = false := by rw [hland]; rfl
    exact Pad.calls_of_open ((Pad.refusal?_eq_none _).mpr ⟨hrest, hfull⟩) again
  · rintro request delay steps hrequest rfl rfl
    rw [← hclient] at hrequest
    have hscript : s.Scripted now ⟨.submit, delay, steps, ending⟩ (now + delay)
        (steps.map fun step => (now + delay, step.action)) ending :=
      .sent hrequest delay steps ending
    obtain ⟨hresult, hfinal⟩ := runStep_submit hgo hscript
    refine ⟨?_, hfinal⟩
    rw [hresult, hvalue]
    rfl
  · intro g delay steps ending' hrequest hg
    rw [← hclient] at hrequest
    exact runStep_unsent_raised hgo hrequest hg delay steps

/-- A pad that is submitting `7` takes an `8` and a second submission; then
the call breaks. The pad is ready with the `8`, and has had five changes:
two inputs, a focus event, and the two ends of the flight. -/
theorem raised_submission_keeps_edit :
    let c : Client := ⟨"http://localhost", .null, {}⟩
    let typed : List Move := [.serve 0 (.input (.int 0) (.str "7"))]
    let s := (Scene.new (.str "A1") c 1).run typed
    let during : List (Int × Event) :=
      [(1, .submit), (2, .input (.int 0) (.str "8")), (3, .focus (.int 0))]
    let broken : Fault := ⟨.runtime, "broken"⟩
    let r := ((s.serve 0 .submit).serveAll during).pad.finishSubmit 4
      ⟨s.pad.generation, 0⟩ (.fault broken)
    s.pad.refusal? = none
      ∧ (c.finish 4 0 (.fault broken)).value = .error broken
      ∧ broken.family = .other
      ∧ r.1.value = .error broken
      ∧ r.2.cells = [some 8] ∧ r.2.phase = .ready ∧ r.2.version = 5 := by
  intro c typed s during broken r
  have hgo : s.pad.refusal? = none := by decide
  have hraised : (c.finish 4 0 (.fault broken)).value = .error broken := rfl
  have hf : broken.family = .other := rfl
  obtain ⟨hvalue, hleft, -⟩ :=
    raised_submission_leaves_no_trace (.str "A1") c 1 typed 0 4 during
      (.fault broken) broken hgo hraised hf
  refine ⟨hgo, hraised, hf, hvalue, ?_⟩
  show (r.2.cells = [some 8]) ∧ r.2.phase = .ready ∧ r.2.version = 5
  rw [hleft]
  exact ⟨by decide, by decide, by decide⟩

end Scene

end DevicePairing
