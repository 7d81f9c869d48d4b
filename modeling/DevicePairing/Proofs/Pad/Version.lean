/-
Versions order snapshots and tell them apart.

A page drops every snapshot that is not newer than the one it shows, by
version alone. That is right only if a version never falls and if two
snapshots of one version are one snapshot, in all ten of their fields;
one change anywhere that forgot the version would leave the page showing
what is no longer so.

Both come from one fact about a move: it leaves the pad as it is, or it
raises the version (`Change.version`). The second half of the file counts
by how much: an accepted event by one, a submission by one when it goes
out and by one when it is over, unless an interrupt kept it from being
over, and anything refused not at all.
-/
import DevicePairing.Proofs.Client
import DevicePairing.Proofs.Pad.Service

namespace DevicePairing.Scene

open Pad (Event)

-- =============================================================== order

/-- A move leaves the pad as it is, or raises the version. -/
theorem Change.version {s s' : Scene} (h : Change s s') :
    s'.pad = s.pad ∨ s.pad.version < s'.pad.version := by
  cases h with
  | nothing => exact .inl rfl
  | typed hi hc =>
      right
      rw [Pad.store_version]
      exact Nat.lt_succ_self _
  | focused hi => exact .inr (Nat.lt_succ_self _)
  | sent hr => exact .inr (Nat.lt_succ_self _)
  | returned hcall ho hs => exact .inr (Nat.lt_succ_self _)
  | raised hcall hf hn => exact .inr (Nat.lt_succ_self _)
  | interrupted hcall hf hn => exact .inl rfl

/-- Along a run the version never falls, and while it stays the pad stays. -/
theorem run_version (s : Scene) (moves : List Move) :
    s.pad.version ≤ (s.run moves).pad.version
      ∧ (s.pad.version = (s.run moves).pad.version
          → s.pad = (s.run moves).pad) := by
  induction moves generalizing s with
  | nil => exact ⟨Nat.le_refl _, fun _ => rfl⟩
  | cons m moves ih =>
      obtain ⟨hle, heq⟩ := ih (s.step m)
      rw [run_cons]
      rcases (step_change s m).version with hsame | hlt
      · rw [← hsame]
        exact ⟨hle, heq⟩
      · constructor
        · omega
        · intro h
          omega

-- ============================================================= amounts

/-- The end of a submission raises the version by one, unless it is an
interrupt. -/
theorem finishSubmit_version (p : Pad) (now : Int) (flight : Pad.Flight)
    (ending : Ending) :
    (p.finishSubmit now flight ending).2.version
      = p.version + if ending.isInterrupt then 0 else 1 := by
  cases hf : (p.client.finish now flight.started ending).value with
  | ok o =>
      obtain ⟨ms, -, hout⟩ := Client.finish_eq_ok hf
      have hnot : ending.isInterrupt = false :=
        Ending.not_interrupt_of_outcome hout
      rw [(Pad.finishSubmit_of_ok _ hf).2, hnot]
      rfl
  | error f =>
      rw [(Pad.finishSubmit_of_error _ hf).2]
      by_cases hi : f.family = .interrupt
      · have hyes : ending.isInterrupt = true :=
          (Client.finish_eq_error hf).mp hi
        rw [if_pos hi, hyes]
        rfl
      · have hnot : ending.isInterrupt = false := by
          rw [← Bool.not_eq_true, ← Client.finish_eq_error hf]
          exact hi
        rw [if_neg hi, hnot]
        rfl

/-- Sending and answering a submission raises the version by two beside
the events served meanwhile, and by one if an interrupt ended it. -/
theorem submit_version {s : Scene} (h : s.pad.refusal? = none) (now later : Int)
    (during : List (Int × Event)) (ending : Ending) :
    (((s.serve now .submit).serveAll during).pad.finishSubmit later
        ⟨s.pad.generation, now⟩ ending).2.version
      = s.pad.version + accepted s.pad during
        + if ending.isInterrupt then 1 else 2 := by
  obtain ⟨-, hmean⟩ := meanwhile_submit h now during
  have hversion : ((s.serve now .submit).serveAll during).pad.version
      = s.pad.version + 1 + accepted s.pad during := hmean.version
  rw [finishSubmit_version, hversion]
  cases ending.isInterrupt with
  | true => simp only [if_true]; omega
  | false => simp only [Bool.false_eq_true, if_false]; omega

/-- Of two snapshots of one run the later has no smaller version, and the
same version only if it is the same in every field. The version rises by
one with every accepted input or focus event, and not at all with what is
refused, which changes nothing; and by two with every submission, beside
the events served during it, or by one if an interrupt ends it. So it does
with a submission that a script makes. -/
theorem version_orders_snapshots (u : Json) (c : Client) (n : Nat)
    (moves : List Move) :
    let s := (Scene.new u c n).run moves
    (∀ more,
        s.pad.snapshot.version ≤ (s.run more).pad.snapshot.version
          ∧ (s.pad.snapshot.version = (s.run more).pad.snapshot.version →
              s.pad.snapshot = (s.run more).pad.snapshot))
      ∧ (∀ now e, s.pad.accepts e = true →
          (s.serve now e).pad.snapshot.version = s.pad.snapshot.version + 1)
      ∧ (∀ now e, s.pad.accepts e = false →
          (e = .submit → s.pad.refusal? ≠ none) → s.serve now e = s)
      ∧ (∀ now later during ending, s.pad.refusal? = none →
          (((s.serve now .submit).serveAll during).pad.finishSubmit later
              ⟨s.pad.generation, now⟩ ending).2.snapshot.version
            = s.pad.snapshot.version + accepted s.pad during
              + if ending.isInterrupt then 1 else 2)
      ∧ ∀ now step later during ending, s.pad.refusal? = none →
          s.Scripted now step later during ending →
          (Pad.service.runStep now s.pad step).2.2.snapshot.version
            = s.pad.snapshot.version + accepted s.pad during
              + if ending.isInterrupt then 1 else 2 := by
  intro s
  refine ⟨?_, ?_, ?_, ?_, ?_⟩
  · intro more
    obtain ⟨hle, hsame⟩ := run_version s more
    refine ⟨hle, ?_⟩
    intro heq
    exact congrArg Pad.snapshot (hsame heq)
  · intro now e ha
    obtain ⟨p, m, hserve, hversion, -⟩ := serve_accepted ha now
    rw [hserve]
    exact hversion
  · intro now e ha hsubmit
    exact serve_refused ha hsubmit now
  · intro now later during ending hr
    exact submit_version hr now later during ending
  · intro now step later during ending hr hstep
    rw [(runStep_submit hr hstep).2]
    exact submit_version hr now later during ending

end DevicePairing.Scene
