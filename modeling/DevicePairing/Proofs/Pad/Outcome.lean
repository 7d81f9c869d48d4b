/-
What a submission returns.

The response to a submission counts only if no cell was touched while it
was awaited. Touched means that an input was accepted: one that stores
the digit that was there already counts as well, and several that restore
every digit count too, while refused events, focus events and further
submissions do not. An abandoned response keeps its status and its time,
but it is a failure and says so; the pad then shows no verdict.
-/
import DevicePairing.Proofs.Client
import DevicePairing.Proofs.Pad.Service

namespace DevicePairing.Scene

open Pad (Event)

/-- A response that nobody touched a cell for is taken as it is. -/
theorem finishSubmit_current {p : Pad} {now t₀ : Int} {ending : Ending}
    {own : Outcome} (hown : (p.client.finish now t₀ ending).value = .ok own) :
    let r := p.finishSubmit now ⟨p.generation, t₀⟩ ending
    r.1.value = .ok (some own)
      ∧ r.2.successVisible = own.isOk
      ∧ r.2.errorVisible = !own.isOk
      ∧ r.2.phase = if own.isOk then .success else .error := by
  intro r
  obtain ⟨hvalue, hpad⟩ := Pad.finishSubmit_of_ok ⟨p.generation, t₀⟩ hown
  simp only [bne_self_eq_false, Pad.judged, Bool.false_eq_true,
    if_false] at hvalue hpad
  refine ⟨hvalue, ?_, ?_, ?_⟩
  · rw [hpad]
    rfl
  · rw [hpad]
    rfl
  · rw [hpad]
    cases hok : own.isOk <;> simp [Pad.phase, Pad.announce, Pad.land, hok]

/-- A response that comes after a cell was touched is abandoned. -/
theorem finishSubmit_stale {p : Pad} {now t₀ : Int} {ending : Ending}
    {own : Outcome}
    {generation : Nat} (hown : (p.client.finish now t₀ ending).value = .ok own)
    (hne : generation ≠ p.generation) (hverdict : p.verdict = none) :
    let r := p.finishSubmit now ⟨generation, t₀⟩ ending
    r.1.value
      = .ok (some { own with result := .failure, reason := "abandoned" })
      ∧ r.2.successVisible = false
      ∧ r.2.errorVisible = true
      ∧ r.2.phase = if r.2.submitEnabled then .ready else .idle := by
  intro r
  obtain ⟨hvalue, hpad⟩ := Pad.finishSubmit_of_ok ⟨generation, t₀⟩ hown
  have hstale : (generation != p.generation) = true := bne_iff_ne.mpr hne
  simp only [hstale, Pad.judged, if_true] at hvalue hpad
  refine ⟨hvalue, ?_, ?_, ?_⟩
  · rw [hpad]
    rfl
  · rw [hpad]
    rfl
  · rw [hpad]
    simp [Pad.phase, Pad.announce, Pad.land, hverdict]

/-- What a submission returns, whatever is served while it waits: a
success exactly if the service answered with a status from 200 to 299 and
no input was accepted meanwhile. If one was, the outcome is an abandoned
failure that keeps status and time; if none was, it is the client's. A
submission that a script makes is answered with just that outcome. -/
theorem submission_returns (u : Json) (c : Client) (n : Nat) (moves : List Move)
    (now later : Int) (during : List (Int × Event)) (ending : Ending)
    (ms : Binary64) (hgo : ((Scene.new u c n).run moves).pad.refusal? = none)
    (htime : elapsedMs now later = .ok ms)
    (hends : ∀ f, ending = .fault f → f.family = .timeout
      ∨ f.family = .request) :
    let s := (Scene.new u c n).run moves
    let p := ((s.serve now .submit).serveAll during).pad
    let r := p.finishSubmit later ⟨s.pad.generation, now⟩ ending
    let edited := during.any fun e => s.pad.acceptsInput e.2
    ∃ own o, ending.outcome ms = some own
      ∧ r.1.value = .ok (some o)
      ∧ (o.isOk = true
        ↔ (∃ code, ending = .status code ∧ 200 ≤ code ∧ code < 300)
          ∧ edited = false)
      ∧ (edited = true →
          o = ⟨.failure, own.status, "abandoned", own.elapsed⟩
            ∧ r.2.errorVisible = true ∧ r.2.successVisible = false
            ∧ r.2.phase = if r.2.submitEnabled then .ready else .idle)
      ∧ (edited = false →
          o = own
            ∧ r.2.errorVisible = !own.isOk ∧ r.2.successVisible = own.isOk
            ∧ r.2.phase = if own.isOk then .success else .error)
      ∧ ∀ step, s.Scripted now step later during ending →
          let answer := Pad.service.runStep now s.pad step
          answer.1.result = .ok (.submitted (some o)) ∧ answer.2.2 = r.2 := by
  intro s p r edited
  obtain ⟨-, hmean⟩ := meanwhile_submit hgo now during
  obtain ⟨own, hown⟩ : ∃ own, ending.outcome ms = some own :=
    Ending.exists_outcome hends
  have hvalue : (p.client.finish later now ending).value = .ok own :=
    Client.finish_of_outcome htime hown
  have hgeneration : p.generation = s.pad.generation + edits s.pad during :=
    hmean.generation
  have hscripted {o : Outcome} (hr : r.1.value = .ok (some o))
      (step : Step Event) (hstep : s.Scripted now step later during ending) :
      (Pad.service.runStep now s.pad step).1.result
          = .ok (.submitted (some o))
        ∧ (Pad.service.runStep now s.pad step).2.2 = r.2 := by
    obtain ⟨hresult, hleft⟩ := runStep_submit hgo hstep
    refine ⟨?_, hleft⟩
    rw [hresult, hr]
    rfl
  cases hedited : edited with
  | true =>
      have hsome : edits s.pad during ≠ 0 := by
        obtain ⟨e, he, ha⟩ := List.any_eq_true.mp hedited
        exact Nat.ne_of_gt (List.countP_pos_iff.mpr ⟨e, he, ha⟩)
      obtain ⟨hr, hsuccess, herror, hphase⟩ :=
        finishSubmit_stale hvalue
          (show s.pad.generation ≠ p.generation by omega)
          (hmean.touched hsome)
      refine ⟨own, _, hown, hr, ?_, fun _ => ⟨rfl, herror, hsuccess, hphase⟩,
        ?_, hscripted hr⟩
      · simp [Outcome.isOk]
      · intro h
        cases h
  | false =>
      have hnone : edits s.pad during = 0 := by
        apply List.countP_eq_zero.mpr
        intro e he
        exact List.any_eq_false.mp hedited e he
      have hsame : s.pad.generation = p.generation := by omega
      obtain ⟨hr, hsuccess, herror, hphase⟩ := finishSubmit_current hvalue
      rw [← hsame] at hr hsuccess herror hphase
      refine ⟨own, own, hown, hr, ?_, ?_,
        fun _ => ⟨rfl, herror, hsuccess, hphase⟩, hscripted hr⟩
      · rw [Ending.isOk_outcome hown]
        simp [Ending.IsPaired]
      · intro h
        cases h

/-- Typing the digit that is there already abandons a submission: the
response to it is 200, and what it returns is a failure. -/
theorem submission_returns_failure_after_same_digit :
    let typed : List Move := [.serve 0 (.input (.int 0) (.str "7"))]
    let s := (Scene.new (.str "A1") ⟨"http://localhost", .null, {}⟩ 1).run typed
    let p := ((s.serve 0 .submit).serveAll
      [(1, .submit), (2, .input (.int 0) (.str "7")), (3, .focus (.int 1))]).pad
    s.pad.refusal? = none
      ∧ elapsedMs 0 5000000 = .ok (.finite false (5 <<< 50) (-50))
      ∧ (∀ f, Ending.status 200 = .fault f → f.family = .timeout
        ∨ f.family = .request)
      ∧ (p.finishSubmit 5000000 ⟨s.pad.generation, 0⟩ (.status 200)).1.value
        = .ok
          (some
          ⟨.failure, some 200, "abandoned",
          .finite false (5 <<< 50) (-50)⟩) := by
  intro typed s p
  have hgo : s.pad.refusal? = none := by decide
  have htime : elapsedMs 0 5000000 = .ok (.finite false (5 <<< 50) (-50)) := by
    rfl
  have hends : ∀ f, Ending.status 200 = .fault f
      → f.family = .timeout ∨ f.family = .request :=
    fun _ h => nomatch h
  refine ⟨hgo, htime, hends, ?_⟩
  obtain ⟨own, o, hown, hvalue, -, hedited, -⟩ :=
    submission_returns _ _ _ typed 0 5000000
      [(1, .submit), (2, .input (.int 0) (.str "7")), (3, .focus (.int 1))] _ _
        hgo htime hends
  rw [hvalue, (hedited (by decide)).1]
  cases hown
  rfl

end DevicePairing.Scene
