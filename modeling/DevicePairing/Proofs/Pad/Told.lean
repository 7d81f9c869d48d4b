/-
The trail, as the answers to a script tell it.

Nobody keeps a trail but a scene. Whoever calls the service sees answers:
for every event its result, and for a submission the request that was
sent. `Told` is a change as both can tell it. A trail tells its marks one
by one (`Scene.told`). A tree of answers tells what happened in the order
in which it happened, which is not the order of the answers
(`Step.told`): a submission goes out, what was served meanwhile follows,
and then comes its end.

`Step.views` goes through the same tree. It puts beside every state that
an answer shows all that was told until then, so that a statement about a
trail and the pad at its end can be made of any state that a caller ever
sees, also in the middle of a flight: a run has no states but those that
are viewed (`Step.map_views`).
-/
import DevicePairing.Proofs.Exchange
import DevicePairing.Proofs.Pad.Scene

namespace DevicePairing

open Pad (Event Reaction)

/-- A change as it is told: of a submission, the request that was sent for
it, if one could be made, and how it ended. -/
inductive Told where
  | typed (index raw : Json)
  | focused (index : Json)
  | sent (request : Option Request)
  | ended (result : Except Fault Outcome)

namespace Told

/-- Whether an input was accepted. -/
def isTyped : Told → Bool
  | .typed _ _ => true
  | _ => false

/-- Whether a submission went out. -/
def isSent : Told → Bool
  | .sent _ => true
  | _ => false

/-- The outcome that a submission returned, where one is told of. -/
def outcome? : Told → Option Outcome
  | .ended (.ok o) => some o
  | _ => none

end Told

-- ============================================================ the trail

/-- A change on the trail of a pad, as it is told. -/
def Mark.told (c : Client) : Mark → Told
  | .typed index raw => .typed index raw
  | .focused index => .focused index
  | .sent call => .sent (c.request call.submission).toOption
  | .returned _ _ o => .ended (.ok o)
  | .raised _ f => .ended (.error f)

namespace Mark

variable (c : Client) (m : Mark)

theorem isTyped_told : (m.told c).isTyped = m.isTyped := by
  cases m <;> rfl

theorem isSent_told : (m.told c).isSent = m.isSent := by
  cases m <;> rfl

theorem isSome_outcome?_told :
    (m.told c).outcome?.isSome = m.isReturned := by
  cases m <;> rfl

end Mark

namespace Scene

/-- The trail of a scene, as it is told. -/
def told (s : Scene) : List Told :=
  s.trail.map (Mark.told s.pad.client)

/-- A change is told behind the others, and by the same client. -/
theorem told_snoc {s : Scene} {p : Pad} (hclient : p.client = s.pad.client)
    (calls : List Call) (m : Mark) :
    told ⟨p, calls, s.trail ++ [m]⟩
      = s.told ++ [m.told s.pad.client] := by
  unfold told
  rw [hclient, List.map_append]
  rfl

/-- A submission that goes out is told with the request that is sent. -/
theorem told_depart (s : Scene) (now : Int) :
    (s.depart now).told
      = s.told
        ++ [.sent (s.pad.client.request s.pad.submission).toOption] :=
  let call : Call := ⟨s.pad.submission, ⟨s.pad.generation, now⟩⟩
  told_snoc (p := s.pad.depart) rfl (s.calls ++ [call]) (.sent call)

end Scene

-- ========================================================== the answers

/-- What an event and its result tell, with the request that was sent and
what was told meanwhile. -/
def Pad.Event.told (sent : Option Request) (meanwhile : List Told) :
    Event → Except Fault Reaction → List Told
  | .input index raw, .ok _ => [.typed index raw]
  | .focus index, .ok _ => [.focused index]
  | .submit, .ok (.submitted (some o)) =>
    .sent sent :: meanwhile ++ [.ended (.ok o)]
  | .submit, .error f => .sent sent :: meanwhile ++ [.ended (.error f)]
  | _, _ => []

mutual

/-- What a step and its answer tell. -/
def Step.told : Step Event → Answer Pad Reaction → List Told
  | ⟨action, _, during, _⟩, answer =>
    action.told answer.sent (Step.allTold during answer.nested)
      answer.result

/-- What steps and the answers to them tell. -/
def Step.allTold : List (Step Event) → List (Answer Pad Reaction) →
    List Told
  | step :: steps, answer :: answers =>
    step.told answer ++ Step.allTold steps answers
  | _, _ => []

end

mutual

/-- Every state that the answer to a step shows, with what was told up to
it. -/
def Step.views (past : List Told) :
    Step Event → Answer Pad Reaction → List (List Told × Pad)
  | ⟨action, delay, during, ending⟩, answer =>
    Step.allViews (past ++ [.sent answer.sent]) during answer.nested
      ++ [(past ++ Step.told ⟨action, delay, during, ending⟩ answer,
          answer.after)]

/-- Every state that the answers to steps show. -/
def Step.allViews (past : List Told) :
    List (Step Event) → List (Answer Pad Reaction) →
    List (List Told × Pad)
  | step :: steps, answer :: answers =>
    step.views past answer
      ++ Step.allViews (past ++ step.told answer) steps answers
  | _, _ => []

end

/-- The end of a submission that went out is told behind what was told
meanwhile. -/
theorem Pad.Event.told_submit (sent : Option Request)
    (meanwhile : List Told) (result : Except Fault Outcome) :
    Event.told sent meanwhile .submit
        ((result.map some).map Reaction.submitted)
      = .sent sent :: meanwhile ++ [.ended result] := by
  cases result <;> rfl

section Done

variable (action : Event) (delay : Int) (during : List (Step Event))
  (ending : Ending) (result : Except Fault Reaction) (log : List Text)
  (after : Pad) (past : List Told)

/-- What was answered at once tells of itself alone. -/
theorem Step.told_done :
    Step.told ⟨action, delay, during, ending⟩ ⟨result, log, none, [], after⟩
      = action.told none [] result := by
  rw [Step.told]
  cases during <;> simp only [Step.allTold]

theorem Step.views_done :
    Step.views past ⟨action, delay, during, ending⟩
        ⟨result, log, none, [], after⟩
      = [(past ++ action.told none [] result, after)] := by
  rw [Step.views, Step.told_done]
  cases during <;> simp only [Step.allViews, List.nil_append]

end Done

mutual

/-- The views of a run are of all the states that its answers show. -/
theorem Step.map_views (past : List Told) (now : Int) (p : Pad) :
    ∀ step : Step Event,
      (step.views past (Pad.service.runStep now p step).1).map (·.2)
        = (Pad.service.runStep now p step).1.states
  | ⟨action, delay, during, ending⟩ => by
      rcases hstart : Pad.service.start now action p
        with ⟨⟨opening, log⟩, q⟩
      cases opening with
      | done result =>
          rw [Service.runStep_done hstart]
          dsimp only
          rw [Step.views_done]
          rfl
      | waiting request flight =>
          rw [Service.runStep_waiting hstart]
          dsimp only
          rw [Step.views, List.map_append, Step.map_allViews]
          rfl

theorem Step.map_allViews (past : List Told) (now : Int) (p : Pad) :
    ∀ steps : List (Step Event),
      (Step.allViews past steps (Pad.service.runSteps now p steps).1).map (·.2)
        = Answer.statesOf (Pad.service.runSteps now p steps).1
  | [] => rfl
  | step :: steps => by
      rw [Service.runSteps_cons]
      dsimp only
      rw [Step.allViews, List.map_append, Step.map_views, Step.map_allViews,
        Answer.statesOf]

end

end DevicePairing
