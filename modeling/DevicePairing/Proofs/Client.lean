/-
How a call of the client ends.

`Ending.outcome` is the rule by which an ending counts: a status from 200
to 299 pairs the device, any other status, a timeout and a request that
failed in some other way do not, and what is no fault of the request has
no outcome. The client follows the rule to the letter as long as the time
that passed can be told at all. `finish_cases` is the only proof that
opens the client; the pad's proofs go from an outcome back to the ending
it came from, by `finish_eq_ok`.
-/
import DevicePairing.Client
import DevicePairing.Proofs.Text.CodePoint

namespace DevicePairing

namespace Ending

/-- The outcome of a request that ended so after a time, where there is
one. -/
def outcome (ms : Binary64) : Ending → Option Outcome
  | .status code =>
    if 200 ≤ code ∧ code < 300 then some ⟨.success, some code, "ok", ms⟩
    else some ⟨.failure, some code, "http " ++ Text.ofInt code, ms⟩
  | .fault f =>
    match f.family with
    | .timeout => some ⟨.failure, none, "timeout", ms⟩
    | .request => some ⟨.failure, none, "connection error", ms⟩
    | .other | .interrupt => none

/-- Whether a request was answered with a status that pairs the device. -/
def IsPaired (ending : Ending) : Prop :=
  ∃ code, ending = .status code ∧ 200 ≤ code ∧ code < 300

/-- An outcome keeps the status of the answer. -/
theorem status_outcome {ms : Binary64} {code : Int} {o : Outcome}
    (h : (status code).outcome ms = some o) : o.status = some code := by
  simp only [outcome] at h
  split at h <;> cases h <;> rfl

/-- Whether a call was interrupted from outside. -/
def isInterrupt : Ending → Bool
  | .status _ => false
  | .fault f => f.family == .interrupt

/-- A success is reported exactly for a status that says so. -/
theorem isOk_outcome {ms : Binary64} {ending : Ending} {o : Outcome}
    (h : ending.outcome ms = some o) : o.isOk = true ↔ ending.IsPaired := by
  cases ending with
  | status code =>
      by_cases hc : 200 ≤ code ∧ code < 300
      · simp only [outcome, hc, and_self, if_true, Option.some.injEq] at h
        subst h
        simp only [Outcome.isOk, beq_self_eq_true, true_iff]
        exact ⟨code, rfl, hc⟩
      · simp only [outcome, hc, if_false, Option.some.injEq] at h
        subst h
        constructor
        · intro hok; cases hok
        · rintro ⟨code', hcode, hc'⟩
          cases hcode
          exact absurd hc' hc
  | fault f =>
      simp only [outcome] at h
      constructor
      · intro hok
        split at h <;> cases h <;> cases hok
      · rintro ⟨code, hcode, -⟩
        cases hcode

/-- Reasons are made of characters. -/
theorem isScalar_reason {ms : Binary64} {ending : Ending} {o : Outcome}
    (h : ending.outcome ms = some o) : o.reason.IsScalar := by
  have hword (s : String) : (Text.ofString s).IsScalar :=
    Text.isScalar_ofString s
  cases ending with
  | status code =>
      simp only [outcome] at h
      split at h
      · cases h
        exact hword "ok"
      · cases h
        exact List.forall_mem_append.mpr ⟨hword "http ", hword (toString code)⟩
  | fault f =>
      simp only [outcome] at h
      split at h
      · cases h
        exact hword "timeout"
      · cases h
        exact hword "connection error"
      · cases h
      · cases h

/-- A status, a timeout and a request that failed have an outcome. -/
theorem exists_outcome {ms : Binary64} {ending : Ending}
    (h : ∀ f, ending = .fault f → f.family = .timeout ∨ f.family = .request) :
    ∃ o, ending.outcome ms = some o := by
  cases ending with
  | status code =>
      simp only [outcome]
      split <;> exact ⟨_, rfl⟩
  | fault f =>
      simp only [outcome]
      rcases h f rfl with hf | hf
      · rw [hf]
        exact ⟨_, rfl⟩
      · rw [hf]
        exact ⟨_, rfl⟩

/-- An interrupted call has no outcome. -/
theorem not_interrupt_of_outcome {ms : Binary64} {ending : Ending} {o : Outcome}
    (h : ending.outcome ms = some o) : ending.isInterrupt = false := by
  cases ending with
  | status code => rfl
  | fault f =>
      show (f.family == .interrupt) = false
      rw [beq_eq_false_iff_ne]
      intro hf
      simp only [outcome, hf] at h
      cases h

end Ending

namespace Client

variable {c : Client} {now t₀ : Int} {ending : Ending} {ms : Binary64}

/-- The fault of a time that cannot be told is none of the request's. -/
theorem family_of_elapsedMs {f : Fault} (h : elapsedMs t₀ now = .error f) :
    f.family = .other := by
  unfold elapsedMs at h
  dsimp only at h
  split at h
  · cases h
  · cases h
    rfl

/-- A call ends in one of two ways: with an outcome that only waits for
the time, or with a fault that is no outcome. -/
theorem finish_cases (c : Client) (now t₀ : Int) (ending : Ending) :
    (∃ rule : Binary64 → Outcome, (∀ ms, ending.outcome ms = some (rule ms))
        ∧ (c.finish now t₀ ending).value = (elapsedMs t₀ now).map rule)
      ∨ ∃ f, ending = .fault f ∧ (∀ ms, ending.outcome ms = none)
        ∧ (c.finish now t₀ ending).value = .error f := by
  cases ending with
  | status code =>
      left
      by_cases hc : 200 ≤ code ∧ code < 300
      · refine ⟨fun ms => ⟨.success, some code, "ok", ms⟩, ?_, ?_⟩
        · intro ms
          exact if_pos hc
        · show (finishStatus t₀ now code).value = _
          unfold finishStatus
          rw [if_pos hc]
          rfl
      · refine ⟨fun ms => ⟨.failure, some code, "http " ++ Text.ofInt code, ms⟩,
          ?_, ?_⟩
        · intro ms
          exact if_neg hc
        · show (finishStatus t₀ now code).value = _
          unfold finishStatus
          rw [if_neg hc]
          rfl
  | fault f =>
      unfold finish finishFault Ending.outcome
      dsimp only
      cases f.family with
      | timeout =>
          left
          exact ⟨fun ms => ⟨.failure, none, "timeout", ms⟩, fun _ => rfl, rfl⟩
      | request =>
          left
          exact ⟨fun ms => ⟨.failure, none, "connection error", ms⟩,
            fun _ => rfl, rfl⟩
      | other =>
          right
          exact ⟨f, rfl, fun _ => rfl, rfl⟩
      | interrupt =>
          right
          exact ⟨f, rfl, fun _ => rfl, rfl⟩

/-- While the time can be told, a call ends by the rule. -/
theorem finish_of_outcome {o : Outcome} (hms : elapsedMs t₀ now = .ok ms)
    (ho : ending.outcome ms = some o) :
    (c.finish now t₀ ending).value = .ok o := by
  rcases finish_cases c now t₀ ending with ⟨rule, hrule, hvalue⟩
    | ⟨f, -, hnone, -⟩
  · rw [hrule] at ho
    cases ho
    rw [hvalue, hms]
    rfl
  · rw [hnone] at ho
    cases ho

/-- What is no fault of the request is handed on. -/
theorem finish_of_other {f : Fault} (hf : f.family = .other) :
    (c.finish now t₀ (.fault f)).value = .error f := by
  simp only [finish, finishFault, hf]

/-- An outcome comes from an ending by the rule. -/
theorem finish_eq_ok {o : Outcome}
    (h : (c.finish now t₀ ending).value = .ok o) :
    ∃ ms, elapsedMs t₀ now = .ok ms ∧ ending.outcome ms = some o := by
  rcases finish_cases c now t₀ ending with ⟨rule, hrule, hvalue⟩
    | ⟨f, -, -, hvalue⟩
  · rw [hvalue] at h
    cases hms : elapsedMs t₀ now with
    | ok ms =>
        rw [hms] at h
        cases h
        exact ⟨ms, rfl, hrule ms⟩
    | error f =>
        rw [hms] at h
        cases h
  · rw [hvalue] at h
    cases h

/-- A call hands on an interrupt exactly when it was interrupted. -/
theorem finish_eq_error {f : Fault}
    (h : (c.finish now t₀ ending).value = .error f) :
    f.family = .interrupt ↔ ending.isInterrupt = true := by
  rcases finish_cases c now t₀ ending with ⟨rule, hrule, hvalue⟩
    | ⟨g, rfl, -, hvalue⟩
  · -- the fault is that of the time, and the ending has an outcome
    rw [hvalue] at h
    have hnot : ending.isInterrupt = false :=
      Ending.not_interrupt_of_outcome (hrule .zero)
    rw [hnot]
    cases hms : elapsedMs t₀ now with
    | ok ms =>
        rw [hms] at h
        cases h
    | error e =>
        rw [hms] at h
        cases h
        rw [family_of_elapsedMs hms]
        simp
  · rw [hvalue] at h
    cases h
    simp [Ending.isInterrupt]

end Client

end DevicePairing
