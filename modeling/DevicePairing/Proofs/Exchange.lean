/-
A step of a service, opened once.

A step ends at once or waits, and its answer is put together from the
parts of the service in one of two ways. Everything about runs of a
service goes through the two equations here, and through `states`, the
states that an answer shows: those of the steps served meanwhile first,
then its own. `Step.answered` puts the actions of a script beside their
answers in the same order. What is so of every answer, in every state that
keeps an invariant, is so over a whole run (`Upholds`).
-/
import DevicePairing.Exchange

namespace DevicePairing

mutual

/-- Every state that an answer shows, in the order in which they came. -/
def Answer.states {σ β : Type} : Answer σ β → List σ
  | ⟨_, _, _, nested, after⟩ => statesOf nested ++ [after]

/-- Every state that some answers show. -/
def Answer.statesOf {σ β : Type} : List (Answer σ β) → List σ
  | [] => []
  | answer :: answers => answer.states ++ statesOf answers

end

mutual

/-- The actions of a step and of those served meanwhile, with the answers to
them, in the order in which they were answered. -/
def Step.answered {σ α β : Type} :
    Step α → Answer σ β → List (α × Answer σ β)
  | ⟨action, _, during, _⟩, answer =>
    Step.allAnswered during answer.nested ++ [(action, answer)]

/-- The actions of some steps with the answers to them. -/
def Step.allAnswered {σ α β : Type} :
    List (Step α) → List (Answer σ β) → List (α × Answer σ β)
  | step :: steps, answer :: answers =>
    step.answered answer ++ Step.allAnswered steps answers
  | _, _ => []

end

/-- What was answered at once is answered alone. -/
theorem Step.answered_done {σ α β : Type} (action : α) (delay : Int)
    (during : List (Step α)) (ending : Ending) (result : Except Fault β)
    (log : List Text) (after : σ) :
    Step.answered ⟨action, delay, during, ending⟩ ⟨result, log, none, [], after⟩
      = [(action, ⟨result, log, none, [], after⟩)] := by
  rw [Step.answered]
  cases during <;> simp only [Step.allAnswered, List.nil_append]

namespace Service

variable {σ α β φ : Type} {s : Service σ α β φ} {now : Int} {action : α}
  {state state' : σ}
  {log : List Text}

/-- A step that ends at once. -/
theorem runStep_done {result : Except Fault β}
    (h : s.start now action state = (⟨.done result, log⟩, state')) (delay : Int)
    (during : List (Step α)) (ending : Ending) :
    s.runStep now state ⟨action, delay, during, ending⟩
      = (⟨result, log, none, [], state'⟩, now, state') := by
  simp only [runStep, h]

/-- A step that waits: the steps of its script are served on the state it
has left, and it is finished on the state they leave. -/
theorem runStep_waiting {request : Request} {flight : φ}
    (h : s.start now action state = (⟨.waiting request flight, log⟩, state'))
    (delay : Int) (during : List (Step α)) (ending : Ending) :
    s.runStep now state ⟨action, delay, during, ending⟩
      = let meanwhile := s.runSteps (now + delay) state' during
        let answer := s.finish meanwhile.2.1 flight ending meanwhile.2.2
        (⟨answer.1.value, log ++ answer.1.log, some request, meanwhile.1,
          answer.2⟩,
          meanwhile.2.1, answer.2) := by
  simp only [runStep, h]

/-- Steps are served one after the other. -/
theorem runSteps_cons (step : Step α) (steps : List (Step α)) :
    s.runSteps now state (step :: steps)
      = let first := s.runStep now state step
        let rest := s.runSteps first.2.1 first.2.2 steps
        (first.1 :: rest.1, rest.2) := by
  simp only [runSteps]

mutual

/-- Every answer has its action: the states of a run are those that the
answers to its actions show. -/
theorem map_after_answered (now : Int) (state : σ) : ∀ step : Step α,
    (step.answered (s.runStep now state step).1).map (·.2.after)
      = (s.runStep now state step).1.states
  | ⟨action, delay, during, ending⟩ => by
      rcases hstart : s.start now action state with ⟨⟨opening, log⟩, state'⟩
      cases opening with
      | done result =>
          rw [runStep_done hstart]
          dsimp only
          rw [Step.answered_done]
          rfl
      | waiting request flight =>
          rw [runStep_waiting hstart]
          dsimp only
          rw [Step.answered, List.map_append, map_after_allAnswered]
          rfl

theorem map_after_allAnswered (now : Int) (state : σ) : ∀ steps : List (Step α),
    (Step.allAnswered steps (s.runSteps now state steps).1).map (·.2.after)
      = Answer.statesOf (s.runSteps now state steps).1
  | [] => rfl
  | step :: steps => by
      rw [runSteps_cons]
      dsimp only
      rw [Step.allAnswered, List.map_append, map_after_answered,
        map_after_allAnswered, Answer.statesOf]

end

/-- What comes of two lists of steps, one after the other. -/
theorem runSteps_append (earlier later : List (Step α)) :
    (s.runSteps now state (earlier ++ later)).2
      = let first := s.runSteps now state earlier
        (s.runSteps first.2.1 first.2.2 later).2 := by
  induction earlier generalizing now state with
  | nil => rfl
  | cons step earlier ih =>
      rw [List.cons_append, runSteps_cons, runSteps_cons]
      exact ih

-- ============================================================ invariants

/-- An invariant that a service keeps, and what is so of every result where
the invariant holds. -/
structure Upholds (s : Service σ α β φ) (I : σ → Prop)
    (P : α → Except Fault β → Prop) : Prop where
  start : ∀ now action {state}, I state → I (s.start now action state).2
  finish : ∀ now flight ending {state}, I state →
    I (s.finish now flight ending state).2
  done : ∀ {now action state result log state'}, I state →
    s.start now action state = (⟨.done result, log⟩, state') → P action result
  waited : ∀ {now action state request flight log state'}, I state →
    s.start now action state = (⟨.waiting request flight, log⟩, state') →
    ∀ now' ending {state''}, I state'' →
      P action (s.finish now' flight ending state'').1.value

mutual

/-- It is so of a step and of those served meanwhile. -/
theorem Upholds.runStep {I : σ → Prop} {P : α → Except Fault β → Prop}
    (h : s.Upholds I P) (now : Int) {state : σ} (hstate : I state) :
    ∀ step : Step α,
      (∀ x ∈ step.answered (s.runStep now state step).1, P x.1 x.2.result)
        ∧ I (s.runStep now state step).2.2
  | ⟨action, delay, during, ending⟩ => by
      have hleft := h.start now action hstate
      rcases hstart : s.start now action state with ⟨⟨opening, log⟩, state'⟩
      rw [hstart] at hleft
      cases opening with
      | done result =>
          rw [runStep_done hstart]
          dsimp only
          rw [Step.answered_done, List.forall_mem_singleton]
          exact ⟨h.done hstate hstart, hleft⟩
      | waiting request flight =>
          obtain ⟨hduring, hmet⟩ := h.runSteps (now + delay) hleft during
          rw [runStep_waiting hstart]
          dsimp only
          rw [Step.answered, List.forall_mem_append, List.forall_mem_singleton]
          exact ⟨⟨hduring, h.waited hstate hstart _ ending hmet⟩,
            h.finish _ flight ending hmet⟩

/-- It is so of a run. -/
theorem Upholds.runSteps {I : σ → Prop} {P : α → Except Fault β → Prop}
    (h : s.Upholds I P) (now : Int) {state : σ} (hstate : I state) :
    ∀ steps : List (Step α),
      (∀ x ∈ Step.allAnswered steps (s.runSteps now state steps).1,
          P x.1 x.2.result)
        ∧ I (s.runSteps now state steps).2.2
  | [] => ⟨fun x hx => absurd hx List.not_mem_nil, hstate⟩
  | step :: steps => by
      obtain ⟨hfirst, hnext⟩ := h.runStep now hstate step
      obtain ⟨hrest, hlast⟩ :=
        h.runSteps (s.runStep now state step).2.1 hnext steps
      rw [runSteps_cons]
      dsimp only
      rw [Step.allAnswered, List.forall_mem_append]
      exact ⟨⟨hfirst, hrest⟩, hlast⟩

end

end Service

end DevicePairing
