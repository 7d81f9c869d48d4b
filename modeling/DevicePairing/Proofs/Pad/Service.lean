/-
The runs of the service are runs of moves.

A script is answered by a tree (`Exchange.lean`): the steps served while
a request is awaited hang below the step that sent it. Cut into sections
and put in the order in which they happen, the tree is a list of moves,
and the marks they leave are what the answers tell (`Told.lean`). Every
state that any answer shows is the pad of a scene on the way, with just
the trail that the answers told up to there. So what is proved of all
runs of moves, their counts of calls and their last returns included,
holds for every script, and for the states in the middle of a flight as
well as for those after it.

`runStep_submit` is the other direction for a single submission: its
answer is what the pad's last section gives, on the pad that serving the
scripted events one after the other leaves, also where the request cannot
be made and all of it happens at once (`Scripted`).
-/
import DevicePairing.Proofs.Pad.Flight
import DevicePairing.Proofs.Pad.Told

namespace DevicePairing

open Pad (Event Reaction Flight)

-- ================================================= the start of a submission

namespace Pad

theorem startSubmit_of_refusal {p : Pad} {line : Text}
    (h : p.refusal? = some line) (now : Int) :
    p.startSubmit now = (⟨.done (.ok none), [line]⟩, p) := by
  unfold startSubmit
  rw [h]

/-- A submission whose request can be made waits for the response. -/
theorem startSubmit_of_sent {p : Pad} {request : Request}
    (h : p.refusal? = none)
    (hr : p.client.request p.submission = .ok request) (now : Int) :
    p.startSubmit now
      = (⟨.waiting request ⟨p.generation, now⟩, [p.departureLine]⟩,
          p.depart) := by
  unfold startSubmit
  simp only [h, Client.start, hr]

/-- A submission whose request cannot be made is a call that ends at once
with the fault that kept it from being made. -/
theorem startSubmit_of_unsent {p : Pad} {f : Fault} (h : p.refusal? = none)
    (hr : p.client.request p.submission = .error f) (now : Int) :
    p.startSubmit now
      = let r := p.depart.finishSubmit now ⟨p.generation, now⟩ (.fault f)
        (⟨.done r.1.value, p.departureLine :: r.1.log⟩, r.2) := by
  unfold startSubmit
  simp only [h, Client.start, hr]
  rfl

end Pad

namespace Scene

/-- The end of a submission is the move that answers its call. The section
gives a result, and the trail tells of it. -/
theorem finish_eq_reply {s : Scene} {calls : List Call} {call : Call}
    (h : s.calls = calls ++ [call]) (now : Int) (ending : Ending) :
    let t := s.run [.reply calls.length now ending]
    t.pad = (Pad.finish now call.flight ending s.pad).2
      ∧ t.calls = calls
      ∧ ∃ result : Except Fault Outcome,
        (s.pad.finishSubmit now call.flight ending).1.value = result.map some
          ∧ t.told = s.told ++ [.ended result] := by
  intro t
  have ht : t = s.settle calls.length call now ending := by
    simp [t, step, h]
  have hclient : t.pad.client = s.pad.client := (run_frame s _).2.1
  refine ⟨?_, ?_, ?_⟩
  · rw [ht]
    rfl
  · simp [ht, settle, h, List.eraseIdx_append_of_length_le]
  · rw [ht] at hclient ⊢
    cases hf : (s.pad.client.finish now call.flight.started ending).value with
    | ok o =>
        have hvalue := (Pad.finishSubmit_of_ok _ hf).1
        refine ⟨.ok (Pad.judged _ o), hvalue, ?_⟩
        simp only [settle, hvalue]
        exact told_snoc hclient _ _
    | error f =>
        have hvalue := (Pad.finishSubmit_of_error _ hf).1
        refine ⟨.error f, hvalue, ?_⟩
        simp only [settle, hvalue]
        exact told_snoc hclient _ _

/-- An event that sends nothing comes to its end in one section, and its
answer shows the pad of the scene that has served it, and tells of the
mark it has left. -/
theorem start_of_unsent {s : Scene} {e : Event}
    (h : e = .submit → s.pad.refusal? ≠ none) (now : Int) :
    ∃ result log,
      Pad.start now e s.pad = (⟨.done result, log⟩, (s.serve now e).pad)
      ∧ (s.serve now e).calls = s.calls
      ∧ (s.serve now e).told = s.told ++ e.told none [] result := by
  have hclient : (s.serve now e).pad.client = s.pad.client :=
    (run_frame s [.serve now e]).2.1
  cases e with
  | input index raw =>
      cases hin : s.pad.onInput index raw with
      | error f =>
          refine ⟨.error f, [], ?_⟩
          simp only [Pad.start, serve, hin, Event.told, List.append_nil,
            and_self]
      | ok r =>
          refine ⟨.ok (.stored r.1), [], ?_⟩
          simp only [serve, hin] at hclient
          simp only [Pad.start, serve, hin, true_and]
          exact told_snoc hclient _ _
  | focus index =>
      cases hin : s.pad.onFocus index with
      | error f =>
          refine ⟨.error f, [], ?_⟩
          simp only [Pad.start, serve, hin, Event.told, List.append_nil,
            and_self]
      | ok q =>
          refine ⟨.ok (.selected q.selection), [], ?_⟩
          simp only [serve, hin] at hclient
          simp only [Pad.start, serve, hin, true_and]
          exact told_snoc hclient _ _
  | observe =>
      exact ⟨.ok .observed, [], rfl, rfl, (List.append_nil _).symm⟩
  | submit =>
      cases hr : s.pad.refusal? with
      | none => exact absurd hr (h rfl)
      | some line =>
          refine ⟨.ok (.submitted none), [line], ?_, ?_, ?_⟩
          · simp only [Pad.start, Pad.startSubmit_of_refusal hr, serve, hr]
            rfl
          · simp only [serve, hr]
          · simp only [serve, hr, Event.told, List.append_nil]

/-- An event comes to its end in a move or two, or it is a submission that
goes out and waits. -/
theorem start_cases (s : Scene) (now : Int) (e : Event) :
    (∃ result log moves, Pad.start now e s.pad
        = (⟨.done result, log⟩, (s.run moves).pad)
        ∧ (s.run moves).calls = s.calls
        ∧ (s.run moves).told = s.told ++ e.told none [] result)
      ∨ ∃ request log, e = .submit
        ∧ s.serve now e = s.depart now
        ∧ (s.depart now).told = s.told ++ [.sent (some request)]
        ∧ Pad.start now e s.pad
          = (⟨.waiting request ⟨s.pad.generation, now⟩, log⟩,
              s.pad.depart) := by
  by_cases h : e = .submit ∧ s.pad.refusal? = none
  · obtain ⟨rfl, hr⟩ := h
    have hserve : s.serve now .submit = s.depart now := by simp only [serve, hr]
    have htold := s.told_depart now
    cases hreq : s.pad.client.request s.pad.submission with
    | ok request =>
        right
        rw [hreq] at htold
        refine ⟨request, [s.pad.departureLine], rfl, hserve, htold, ?_⟩
        simp only [Pad.start, Pad.startSubmit_of_sent hr hreq]
    | error f =>
        -- sent and ended within one section of the service
        left
        obtain ⟨hpad, hcalls, result, hvalue, hended⟩ :=
          finish_eq_reply (s := s.depart now) rfl now (.fault f)
        let r :=
          s.pad.depart.finishSubmit now ⟨s.pad.generation, now⟩ (.fault f)
        have hresult : r.1.value = result.map some := hvalue
        refine ⟨r.1.value.map .submitted, s.pad.departureLine :: r.1.log,
          [.serve now .submit, .reply s.calls.length now (.fault f)],
          ?_, ?_, ?_⟩
        · rw [run_cons, step, hserve, hpad]
          simp only [Pad.start, Pad.startSubmit_of_unsent hr hreq]
          rfl
        · rw [run_cons, step, hserve, hcalls]
        · rw [run_cons, step, hserve, hended, htold, hreq, hresult,
            Event.told_submit, List.append_assoc]
          rfl
  · left
    obtain ⟨result, log, hstart, hrest⟩ :=
      start_of_unsent (s := s) (e := e) (fun he hr => h ⟨he, hr⟩) now
    exact ⟨result, log, [.serve now e], hstart, hrest⟩

-- ================================================================ scripts

/-- A run from a scene comes to a pad, and its trail to what is told. -/
def Shows (s : Scene) (told : List Told) (p : Pad) : Prop :=
  ∃ moves, (s.run moves).pad = p ∧ (s.run moves).told = told

theorem Shows.of_run {s : Scene} {moves : List Move} {told : List Told}
    {p : Pad} (h : (s.run moves).Shows told p) : s.Shows told p := by
  obtain ⟨more, hpad, htold⟩ := h
  exact ⟨moves ++ more, by rw [run_append, hpad], by rw [run_append, htold]⟩

/-- What a run has to match of a script and its answers: the state they
end in, with the calls under way as they were; what the answers tell,
behind what was told before; and every state they show, with what was told
up to it. -/
structure Matches (s : Scene) (moves : List Move) (final : Pad)
    (told : List Told) (views : List (List Told × Pad)) : Prop where
  final : (s.run moves).pad = final
  calls : (s.run moves).calls = s.calls
  told : (s.run moves).told = s.told ++ told
  views : ∀ view ∈ views, s.Shows view.1 view.2

mutual

/-- Every scripted step is a run. -/
theorem runStep_matches (s : Scene) (now : Int) :
    ∀ step : Step Event,
      let watched := Pad.service.runStep now s.pad step
      ∃ moves, Matches s moves watched.2.2 (step.told watched.1)
        (step.views s.told watched.1)
  | ⟨action, delay, during, ending⟩ => by
      rcases start_cases s now action
        with ⟨result, log, moves, hstart, hcalls, htold⟩
          | ⟨request, log, rfl, hserve, hsent, hstart⟩
      · rw [Service.runStep_done hstart]
        dsimp only
        rw [Step.told_done, Step.views_done]
        refine ⟨moves, rfl, hcalls, htold, List.forall_mem_singleton.mpr ?_⟩
        exact ⟨moves, rfl, htold⟩
      · rw [Service.runStep_waiting hstart]
        -- what is served meanwhile starts from the pad that the submission left
        obtain ⟨moves, hfinal, hcalls, hmeanwhile, hviews⟩ :=
          runSteps_matches (s.depart now) (now + delay) during
        have hdepart : s.run [.serve now .submit] = s.depart now := hserve
        let mean := Pad.service.runSteps (now + delay) s.pad.depart during
        let later := mean.2.1
        obtain ⟨hreply, hrest, result, hvalue, hended⟩ :=
          finish_eq_reply (s := (s.depart now).run moves) hcalls later ending
        let all := [.serve now .submit] ++ moves
          ++ [.reply s.calls.length later ending]
        have hall : s.run all
            = ((s.depart now).run moves).run
              [.reply s.calls.length later ending] := by
          rw [run_append, run_append, hdepart]
        let finished := Pad.finish later ⟨s.pad.generation, now⟩ ending mean.2.2
        have hpad : (s.run all).pad = finished.2 := by
          rw [hall, hreply, hfinal]
          rfl
        have hresult : finished.1.value
            = (result.map some).map Reaction.submitted := by
          rw [hfinal] at hvalue
          exact congrArg (Except.map Reaction.submitted) hvalue
        have htold : (s.run all).told
            = s.told ++ Event.told (some request)
              (Step.allTold during mean.1) .submit finished.1.value := by
          rw [hall, hended, hmeanwhile, hsent, hresult, Event.told_submit]
          simp only [List.append_assoc, List.cons_append, List.nil_append]
          rfl
        refine ⟨all, hpad, by rw [hall, hrest], htold, ?_⟩
        rw [Step.views, List.forall_mem_append, List.forall_mem_singleton,
          ← hsent]
        refine ⟨fun view hview => ?_, all, hpad, htold⟩
        have hshown := hviews view hview
        rw [← hdepart] at hshown
        exact hshown.of_run

/-- Every script is a run. -/
theorem runSteps_matches (s : Scene) (now : Int) :
    ∀ steps : List (Step Event),
      let watched := Pad.service.runSteps now s.pad steps
      ∃ moves, Matches s moves watched.2.2 (Step.allTold steps watched.1)
        (Step.allViews s.told steps watched.1)
  | [] => ⟨[], rfl, rfl, (List.append_nil _).symm,
      fun _ hview => absurd hview List.not_mem_nil⟩
  | step :: steps => by
      obtain ⟨first, hfinal, hcalls, htold, hviews⟩ :=
        runStep_matches s now step
      obtain ⟨rest, hfinal', hcalls', htold', hviews'⟩ :=
        runSteps_matches (s.run first) (Pad.service.runStep now s.pad step).2.1
          steps
      rw [hfinal] at hfinal' htold' hviews'
      rw [htold] at htold' hviews'
      rw [Service.runSteps_cons]
      refine ⟨first ++ rest, ?_, ?_, ?_, ?_⟩
      · rw [run_append, hfinal']
      · rw [run_append, hcalls', hcalls]
      · rw [run_append, htold', List.append_assoc]
        rfl
      · dsimp only
        rw [Step.allViews, List.forall_mem_append]
        exact ⟨hviews, fun view hview => (hviews' view hview).of_run⟩

end

/-- Whatever a script shows, a run comes to. -/
theorem shows_of_script (s : Scene) (now : Int) (steps : List (Step Event)) :
    let answers := (Pad.service.runSteps now s.pad steps).1
    ∀ view ∈ Step.allViews s.told steps answers, s.Shows view.1 view.2 := by
  obtain ⟨moves, hmatch⟩ := runSteps_matches s now steps
  exact hmatch.views

-- ==================================================== a scripted submission

/-- During a flight no step waits: a script is the list of its events. -/
theorem runSteps_inFlight (now : Int) :
    ∀ (steps : List (Step Event)) {s : Scene}, s.pad.inFlight = true →
      (Pad.service.runSteps now s.pad steps).2
        = (now, (s.serveAll (steps.map fun step => (now, step.action))).pad)
  | [], _, _ => rfl
  | ⟨action, delay, during, ending⟩ :: steps, s, h => by
      have hrefused : action = .submit → s.pad.refusal? ≠ none :=
        fun _ => Pad.refusal?_of_inFlight h
      obtain ⟨result, log, hstart, -⟩ := start_of_unsent hrefused now
      rw [Service.runSteps_cons, Service.runStep_done hstart]
      exact runSteps_inFlight now steps (meanwhile_serve h now action).held

/-- How a submission comes to its end in a script, if it goes out: when it
does, behind which events, and in which way. If its request is sent, that
is as the script says; if its request cannot be made, it is at once, with
the fault that kept it from being made. -/
inductive Scripted (s : Scene) (now : Int) :
    Step Event → Int → List (Int × Event) → Ending → Prop
  | sent {request : Request}
      (hr : s.pad.client.request s.pad.submission = .ok request)
      (delay : Int) (during : List (Step Event)) (ending : Ending) :
      Scripted s now ⟨.submit, delay, during, ending⟩ (now + delay)
        (during.map fun step => (now + delay, step.action)) ending
  | unsent {f : Fault}
      (hr : s.pad.client.request s.pad.submission = .error f)
      (delay : Int) (during : List (Step Event)) (ending : Ending) :
      Scripted s now ⟨.submit, delay, during, ending⟩ now [] (.fault f)

/-- The answer to a scripted submission that goes out: what the pad's last
section makes of its ending, on the pad that the events served meanwhile
have left. -/
theorem runStep_submit {s : Scene} {now later : Int} {step : Step Event}
    {during : List (Int × Event)} {ending : Ending}
    (hgo : s.pad.refusal? = none)
    (h : s.Scripted now step later during ending) :
    let r := ((s.serve now .submit).serveAll during).pad.finishSubmit later
      ⟨s.pad.generation, now⟩ ending
    (Pad.service.runStep now s.pad step).1.result = r.1.value.map .submitted
      ∧ (Pad.service.runStep now s.pad step).2.2 = r.2 := by
  have hserve : s.serve now .submit = s.depart now := by simp only [serve, hgo]
  rw [hserve]
  cases h with
  | @sent request hr delay during ending =>
      have hstart : Pad.service.start now .submit s.pad
          = (⟨.waiting request ⟨s.pad.generation, now⟩,
              [s.pad.departureLine]⟩, s.pad.depart) := by
        simp only [Pad.service, Pad.start, Pad.startSubmit_of_sent hgo hr]
      have hmean : (Pad.service.runSteps (now + delay) s.pad.depart during).2
          = (now + delay, ((s.depart now).serveAll
              (during.map fun step => (now + delay, step.action))).pad) :=
        runSteps_inFlight (now + delay) during (s := s.depart now) rfl
      rw [Service.runStep_waiting hstart]
      simp only [hmean]
      exact ⟨rfl, rfl⟩
  | @unsent f hr delay during ending =>
      have hstart : Pad.service.start now .submit s.pad
          = let r := s.pad.depart.finishSubmit now ⟨s.pad.generation, now⟩
              (.fault f)
            (⟨.done (r.1.value.map .submitted),
                s.pad.departureLine :: r.1.log⟩, r.2) := by
        simp only [Pad.service, Pad.start, Pad.startSubmit_of_unsent hgo hr]
      rw [Service.runStep_done hstart]
      exact ⟨rfl, rfl⟩

end Scene

end DevicePairing
