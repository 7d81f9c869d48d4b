/-
The banners tell how the last submission ended.

A pad has one banner for success and one for failure, and keeps the last
outcome beside them. The three are written together, at one place only:
where a submission is over and has an outcome. Cells may change, a new
submission may go out, and one may end without an outcome; all of this
moves the phase and leaves the banners. So they are not a matter of what
the pad holds now, but of the outcomes that were returned so far, which
the trail has (`Scene.outcomes`): none, and both banners are hidden; some,
and the banner of the last one is up alone.

A move is an event that is served or the end of a call, and the two need
different words: no event returns an outcome (`serve_notice`), and a call
returns one and has it shown, or it returns none and nothing is shown
(`reply_notice`). Whoever serves a script finds the same outcomes in the
answers (`Told.outcome?`).
-/
import DevicePairing.Proofs.Pad.Service

namespace DevicePairing

open Pad (Event)

-- ========================================================== vocabulary

/-- The outcome that a submission returned, where a change is its end. -/
def Mark.outcome? : Mark → Option Outcome
  | .returned _ _ o => some o
  | _ => none

theorem Mark.outcome?_told (c : Client) (m : Mark) :
    (m.told c).outcome? = m.outcome? := by
  cases m <;> rfl

/-- The outcomes that submissions have returned so far, oldest first. -/
def Scene.outcomes (s : Scene) : List Outcome := s.trail.filterMap Mark.outcome?

/-- What a pad says about its submissions: the two banners and the outcome
that it keeps. -/
structure Notice where
  success : Bool
  error : Bool
  outcome : Option Outcome
  deriving DecidableEq, Repr

/-- The notice that the last outcome calls for, if there was one. -/
def Notice.of : Option Outcome → Notice
  | none => ⟨false, false, none⟩
  | some o => ⟨o.isOk, !o.isOk, some o⟩

namespace Pad

/-- The notice of a pad. -/
def notice (p : Pad) : Notice :=
  ⟨p.successVisible, p.errorVisible, p.lastOutcome⟩

theorem store_notice (p : Pad) (i : Nat) (c : Cell) :
    (p.store i c).notice = p.notice := by
  unfold store
  split <;> rfl

end Pad

namespace Scene

variable (s : Scene)

/-- A change that is not the end of a submission leaves the outcomes. -/
theorem outcomes_snoc {p : Pad} {calls : List Call} {m : Mark}
    (hm : m.outcome? = none) :
    outcomes ⟨p, calls, s.trail ++ [m]⟩ = s.outcomes := by
  rw [outcomes, List.filterMap_append, List.filterMap_cons_none hm]
  exact List.append_nil _

/-- The outcomes that are told of are those on the trail. -/
theorem filterMap_told : s.told.filterMap Told.outcome? = s.outcomes := by
  unfold told outcomes
  rw [List.filterMap_map]
  exact congrArg (List.filterMap · s.trail)
    (funext fun m => m.outcome?_told s.pad.client)

-- ============================================================ one move

/-- No event that is served returns an outcome: not even a submission that
goes out, which only begins. -/
theorem serve_notice (now : Int) (e : Event) :
    (s.serve now e).outcomes = s.outcomes
      ∧ (s.serve now e).pad.notice = s.pad.notice := by
  cases e with
  | input index raw =>
      cases h : s.pad.onInput index raw with
      | error f => simp only [serve, h, and_self]
      | ok r =>
          obtain ⟨cell, p⟩ := r
          obtain ⟨i, -, -, rfl⟩ := Pad.onInput_eq_ok.mp h
          simp only [serve, h]
          exact ⟨s.outcomes_snoc rfl, Pad.store_notice ..⟩
  | focus index =>
      cases h : s.pad.onFocus index with
      | error f => simp only [serve, h, and_self]
      | ok p =>
          obtain ⟨i, -, rfl⟩ := Pad.onFocus_eq_ok.mp h
          simp only [serve, h]
          exact ⟨s.outcomes_snoc rfl, rfl⟩
  | submit =>
      cases h : s.pad.refusal? with
      | some line => simp only [serve, h, and_self]
      | none =>
          simp only [serve, h]
          exact ⟨s.outcomes_snoc rfl, rfl⟩
  | observe => exact ⟨rfl, rfl⟩

variable {s} {place : Nat} {call : Call}

/-- A call that ends returns an outcome and has it shown, or it returns
none and what is shown stays. -/
theorem reply_notice (hcall : s.calls[place]? = some call) (now : Int)
    (ending : Ending) :
    let answer := (s.pad.finishSubmit now call.flight ending).1.value
    let t := s.step (.reply place now ending)
    (∃ o, answer = .ok (some o) ∧ t.outcomes = s.outcomes ++ [o]
        ∧ t.pad.notice = .of (some o))
      ∨ ∃ f, answer = .error f ∧ t.outcomes = s.outcomes
        ∧ t.pad.notice = s.pad.notice := by
  intro answer t
  have ht : t = s.settle place call now ending := by
    simp only [t, step, hcall]
  rw [ht]
  cases hf : (s.pad.client.finish now call.flight.started ending).value with
  | ok own =>
      left
      obtain ⟨hvalue, hpad⟩ := Pad.finishSubmit_of_ok _ hf
      refine ⟨_, hvalue, ?_, ?_⟩
      · simp only [settle, hvalue, outcomes, List.filterMap_append]
        rfl
      · simp only [settle, hpad]
        rfl
  | error f =>
      right
      obtain ⟨hvalue, hpad⟩ := Pad.finishSubmit_of_error _ hf
      refine ⟨f, hvalue, ?_, ?_⟩
      · simp only [settle, hvalue]
        exact s.outcomes_snoc rfl
      · simp only [settle, hpad]
        split <;> rfl

-- ================================================================= runs

/-- A move keeps the notice that of the last outcome. -/
theorem step_notice (h : s.pad.notice = .of s.outcomes.getLast?) (m : Move) :
    (s.step m).pad.notice = .of (s.step m).outcomes.getLast? := by
  cases m with
  | serve now e =>
      obtain ⟨houtcomes, hnotice⟩ := s.serve_notice now e
      rw [step, houtcomes, hnotice, h]
  | reply place now ending =>
      cases hcall : s.calls[place]? with
      | none =>
          simp only [step, hcall]
          exact h
      | some call =>
          obtain ⟨o, -, houtcomes, hnotice⟩ | ⟨f, -, houtcomes, hnotice⟩ :=
            reply_notice hcall now ending
          · rw [houtcomes, hnotice, List.getLast?_concat]
          · rw [houtcomes, hnotice, h]

/-- Whatever happens, the notice is that of the last outcome. -/
theorem run_notice (h : s.pad.notice = .of s.outcomes.getLast?)
    (moves : List Move) :
    (s.run moves).pad.notice = .of (s.run moves).outcomes.getLast? := by
  induction moves generalizing s with
  | nil => exact h
  | cons m moves ih => exact ih (step_notice h m)

/-- A state that a script shows has the notice of the last outcome that its
answers tell of, up to there. -/
theorem notice_told (h : s.pad.notice = .of s.outcomes.getLast?) (now : Int)
    (steps : List (Step Event)) :
    let answers := (Pad.service.runSteps now s.pad steps).1
    ∀ view ∈ Step.allViews s.told steps answers,
      view.2.notice = .of (view.1.filterMap Told.outcome?).getLast? := by
  intro answers view hview
  obtain ⟨more, hpad, htold⟩ := s.shows_of_script now steps view hview
  rw [← hpad, ← htold, filterMap_told]
  exact run_notice h more

/-- At every moment, also while a submission is under way: the two banners
are never up together, and both are hidden until a submission has returned
an outcome. From then on the pad keeps the last outcome that was returned,
and the success banner is up if that outcome is a success, the error banner
if it is not. No event that is served changes banners or outcome; the end
of a call does so only where it returns an outcome. So whatever state a
script shows has banners and outcome by the last outcome that the answers
tell of until then. -/
theorem banners_tell_last_outcome (u : Json) (c : Client) (n : Nat)
    (moves : List Move) :
    let s := (Scene.new u c n).run moves
    ¬(s.pad.successVisible = true ∧ s.pad.errorVisible = true)
      ∧ s.pad.lastOutcome = s.outcomes.getLast?
      ∧ (s.outcomes = [] →
          s.pad.successVisible = false ∧ s.pad.errorVisible = false)
      ∧ (s.outcomes ≠ [] → ∃ o, s.pad.lastOutcome = some o
          ∧ (s.pad.successVisible = true ↔ o.isOk = true)
          ∧ (s.pad.errorVisible = true ↔ o.isOk = false))
      ∧ (∀ now e, (s.serve now e).outcomes = s.outcomes
          ∧ (s.serve now e).pad.notice = s.pad.notice)
      ∧ (∀ place call now ending, s.calls[place]? = some call →
          let answer := (s.pad.finishSubmit now call.flight ending).1.value
          let t := s.step (.reply place now ending)
          (∃ o, answer = .ok (some o) ∧ t.outcomes = s.outcomes ++ [o])
            ∨ ∃ f, answer = .error f ∧ t.outcomes = s.outcomes
              ∧ t.pad.notice = s.pad.notice)
      ∧ ∀ now steps,
          let answers := (Pad.service.runSteps now s.pad steps).1
          ∀ view ∈ Step.allViews s.told steps answers,
            view.2.notice
              = .of (view.1.filterMap Told.outcome?).getLast? := by
  intro s
  have hnotice : s.pad.notice = .of s.outcomes.getLast? :=
    run_notice (s := Scene.new u c n) rfl moves
  have hsuccess := congrArg Notice.success hnotice
  have herror := congrArg Notice.error hnotice
  have houtcome := congrArg Notice.outcome hnotice
  simp only [Pad.notice] at hsuccess herror houtcome
  refine ⟨?_, ?_, ?_, ?_, fun now e => s.serve_notice now e, ?_,
    notice_told hnotice⟩
  · rw [hsuccess, herror]
    cases s.outcomes.getLast? with
    | none => simp [Notice.of]
    | some o => simp [Notice.of]
  · rw [houtcome]
    cases s.outcomes.getLast? <;> rfl
  · intro hnil
    rw [hsuccess, herror, hnil]
    exact ⟨rfl, rfl⟩
  · intro hne
    have hlast := List.getLast?_eq_some_getLast hne
    rw [hlast] at hsuccess herror houtcome
    refine ⟨_, houtcome, ?_, ?_⟩
    · rw [hsuccess]
      rfl
    · rw [herror]
      simp [Notice.of]
  · intro place call now ending hcall answer t
    exact (reply_notice hcall now ending).imp_left
      fun ⟨o, hvalue, houtcomes, _⟩ => ⟨o, hvalue, houtcomes⟩

end Scene

end DevicePairing
