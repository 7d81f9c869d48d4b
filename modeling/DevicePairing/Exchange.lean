/-
Services that may be called again while they wait.

An action comes to an end at once, or it sends one request and waits.
While it waits, time passes and other actions may be served; then the
request ends, with a status or with a fault, and the action is finished
on whatever state it finds. A step is an action together with the script
of the request it may send, and a run of steps is answered by a tree: the
steps served during a request are answered inside the step that waited.
-/
import DevicePairing.Fault
import DevicePairing.Json.Value

namespace DevicePairing

/-- How a request ends. -/
inductive Ending where
  | status (code : Int)
  | fault (f : Fault)
  deriving Repr

/-- A request as it goes on the wire. The timeout is whatever was configured. -/
structure Request where
  url : Text
  timeout : Json

/-- An action, and the script of the request that it may send: how long
the request takes, which steps are served meanwhile, and how it ends. -/
structure Step (α : Type) where
  action : α
  delay : Int
  during : List (Step α)
  ending : Ending

/-- What an action comes to before any reply: its result, or a request and
what has to be kept until the reply. -/
inductive Opening (β φ : Type) where
  | done (result : Except Fault β)
  | waiting (request : Request) (flight : φ)

/-- A value with the lines printed on the way to it. -/
structure Logged (τ : Type) where
  value : τ
  log : List Text := []

/-- A service over states `σ` that takes actions `α` and gives results
`β`; `φ` is kept for an action while it waits. Both functions are given
the reading of the clock. -/
structure Service (σ α β φ : Type) where
  start : Int → α → σ → Logged (Opening β φ) × σ
  finish : Int → φ → Ending → σ → Logged (Except Fault β) × σ

/-- The answer to a step: its result, the lines it printed itself, the
request it sent, the answers to the steps served meanwhile, and the state
after it. -/
structure Answer (σ β : Type) where
  result : Except Fault β
  log : List Text
  sent : Option Request
  nested : List (Answer σ β)
  after : σ

namespace Service

variable {σ α β φ : Type}

mutual

/-- One step from a state, at a reading of the clock. -/
def runStep (s : Service σ α β φ) (now : Int) (state : σ) :
    Step α → Answer σ β × Int × σ
  | ⟨action, delay, during, ending⟩ =>
    match s.start now action state with
    | (⟨.done result, log⟩, state) =>
      (⟨result, log, none, [], state⟩, now, state)
    | (⟨.waiting request flight, log⟩, state) =>
      let (nested, now, state) := s.runSteps (now + delay) state during
      let (⟨result, log'⟩, state) := s.finish now flight ending state
      (⟨result, log ++ log', some request, nested, state⟩, now, state)

/-- Steps one after the other. -/
def runSteps (s : Service σ α β φ) (now : Int) (state : σ) :
    List (Step α) → List (Answer σ β) × Int × σ
  | [] => ([], now, state)
  | step :: steps =>
    let (answer, now, state) := s.runStep now state step
    let (answers, now, state) := s.runSteps now state steps
    (answer :: answers, now, state)

end

end Service

end DevicePairing
