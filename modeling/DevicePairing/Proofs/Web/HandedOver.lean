/-
What a run hands over to the journal.

Whatever a server has for a journal, and whatever its pad is for: a run
comes to the same for the journal and the store as recording the outcomes
that the pad has returned, one after the other (`Site.recordAll`), and
doing nothing else. The pad and the registry may have become anything, but
the pad is for the same device and has the same cells, and there is a
registry exactly if there was one (`HandsOver`).
-/
import DevicePairing.Proofs.Journal.Filing
import DevicePairing.Proofs.Web.Recorded

namespace DevicePairing.Web

open Journal (Writer Filing Filed attemptsFor)
open Pad (Event Flight Reaction)

namespace Site

-- ============================================================ recording

/-- The server after outcomes were recorded one after the other. -/
def recordAll (s : Site) : List Outcome → Site
  | [] => s
  | o :: os => (s.record o).2.recordAll os

/-- A server as it was, with these outcomes recorded, but for its pad and its
registry. -/
structure HandsOver (s : Site) (os : List Outcome) (s' : Site) : Prop where
  recorded : ∃ p waiting, s' = { s.recordAll os with pad := p, waiting }
  uniqueId : s'.pad.uniqueId = s.pad.uniqueId
  cells : s'.pad.cellCount = s.pad.cellCount
  waiting : s'.waiting.isSome = s.waiting.isSome
  reasons : ∀ o ∈ os, o.reason.IsScalar

variable {s s' s'' : Site} {os os' : List Outcome}

/-- Recording looks at the device of the pad and at nothing else of it. -/
theorem record_withPad {p : Pad} (hid : p.uniqueId = s.pad.uniqueId)
    (waiting : Option Waiting) (o : Outcome) :
    (record { s with pad := p, waiting } o).2
      = { (s.record o).2 with pad := p, waiting } := by
  obtain ⟨pad, waiting', journal, store, clock, later⟩ := s
  unfold record
  dsimp only
  rw [hid]
  cases journal with
  | none => rfl
  | some w =>
      dsimp only
      split <;> rfl

theorem recordAll_withPad {p : Pad} (hid : p.uniqueId = s.pad.uniqueId)
    (waiting : Option Waiting) (os : List Outcome) :
    recordAll { s with pad := p, waiting } os
      = { s.recordAll os with pad := p, waiting } := by
  induction os generalizing s with
  | nil => rfl
  | cons o os ih =>
      have hpad : p.uniqueId = (s.record o).2.pad.uniqueId := by
        rw [(record_frame s o).1]
        exact hid
      rw [recordAll, record_withPad hid, ih hpad]
      rfl

theorem recordAll_append (s : Site) (os os' : List Outcome) :
    s.recordAll (os ++ os') = (s.recordAll os).recordAll os' := by
  induction os generalizing s with
  | nil => rfl
  | cons o os ih => exact ih _

theorem recordAll_pad (s : Site) (os : List Outcome) :
    (s.recordAll os).pad = s.pad ∧ (s.recordAll os).waiting = s.waiting := by
  induction os generalizing s with
  | nil => exact ⟨rfl, rfl⟩
  | cons o os ih =>
      obtain ⟨hpad, hwaiting⟩ := ih (s.record o).2
      obtain ⟨hpad', hwaiting'⟩ := record_frame s o
      exact ⟨hpad.trans hpad', hwaiting.trans hwaiting'⟩

namespace HandsOver

/-- Whatever happens to the pad and to the registry. -/
theorem of_pad {p : Pad} {waiting : Option Waiting}
    (hid : p.uniqueId = s.pad.uniqueId) (hcells : p.cellCount = s.pad.cellCount)
    (hwaiting : waiting.isSome = s.waiting.isSome) :
    HandsOver s [] { s with pad := p, waiting } :=
  ⟨⟨p, waiting, rfl⟩, hid, hcells, hwaiting,
    fun _ ho => absurd ho List.not_mem_nil⟩

theorem trans (h : HandsOver s os s') (h' : HandsOver s' os' s'') :
    HandsOver s (os ++ os') s'' := by
  refine ⟨?recorded, h'.uniqueId.trans h.uniqueId, h'.cells.trans h.cells,
    h'.waiting.trans h.waiting,
    List.forall_mem_append.mpr ⟨h.reasons, h'.reasons⟩⟩
  case recorded =>
    obtain ⟨p, waiting, heq⟩ := h.recorded
    obtain ⟨p', waiting', heq'⟩ := h'.recorded
    have hid : p.uniqueId = (s.recordAll os).pad.uniqueId := by
      have hsame := h.uniqueId
      rw [heq] at hsame
      rw [(recordAll_pad s os).1]
      exact hsame
    refine ⟨p', waiting', ?_⟩
    rw [heq', heq, recordAll_withPad hid, recordAll_append]

end HandsOver

/-- The outcome that the pad has for a submission it is done with. -/
def outcome? (result : Except Fault (Option Outcome)) : Option Outcome :=
  match result with
  | .ok o => o
  | .error _ => none

theorem concludeSubmit_eq_record (s : Site) (o : Outcome) :
    (s.concludeSubmit (.ok (some o))).2 = (s.record o).2 := by
  unfold concludeSubmit
  dsimp only
  split <;> simp only [*]

/-- When the pad is done with a submission, its outcome is recorded, if it has
one. -/
theorem HandsOver.conclude (s : Site) {result : Except Fault (Option Outcome)}
    (hreason : ∀ o, result = .ok (some o) → o.reason.IsScalar) :
    HandsOver s (outcome? result).toList (s.concludeSubmit result).2 := by
  obtain ⟨hpad, hwaiting⟩ := concludeSubmit_frame s result
  refine ⟨⟨s.pad, s.waiting, ?_⟩, congrArg _ hpad, congrArg _ hpad,
    congrArg _ hwaiting, ?_⟩
  · rcases result with f | _ | o
    · rfl
    · rfl
    · show (s.concludeSubmit (.ok (some o))).2
        = { (s.record o).2 with pad := s.pad, waiting := s.waiting }
      rw [concludeSubmit_eq_record, ← (record_frame s o).1,
        ← (record_frame s o).2]
  · rcases result with f | _ | o
    · exact fun _ ho => absurd ho List.not_mem_nil
    · exact fun _ ho => absurd ho List.not_mem_nil
    · exact List.forall_mem_singleton.mpr (hreason o rfl)

-- ================================================================== runs

/-- A pad returns the outcome of a submission that it is done with. -/
theorem filterMap_returned? {result : Except Fault (Option Outcome)}
    {b : Answer Pad Reaction} (h : b.result = result.map .submitted) :
    [(Event.submit, b)].filterMap returned? = (outcome? result).toList := by
  rw [List.filterMap_cons, returned?, h]
  rcases result with f | _ | o <;> rfl

theorem returned?_other {e : Event} {b : Answer Pad Reaction}
    (h : ∀ o, b.result ≠ .ok (.submitted o)) : returned? (e, b) = none := by
  unfold returned?
  split
  · exact absurd ‹_› (h _)
  · rfl

/-- A submission that waited hands over what the pad returns for it. -/
theorem HandsOver.finish (s : Site) (now : Int) (flight : Flight)
    (ending : Ending) {b : Answer Pad Reaction}
    (h : b.result = (Pad.finish now flight ending s.pad).1.value) :
    HandsOver s ([(Event.submit, b)].filterMap returned?)
      (Site.finish now flight ending s).2 := by
  obtain ⟨hcells, hid⟩ := frame_finish now flight ending s.pad
  have hfinished : HandsOver s []
      { s with pad := (s.pad.finishSubmit now flight ending).2 } :=
    .of_pad hid hcells rfl
  rw [filterMap_returned? h]
  exact hfinished.trans (.conclude _ fun _ => Pad.isScalar_finishSubmit)

mutual

/-- A step hands over what the pad returns in it. -/
theorem runStep_handsOver {pairing : Bool} {n : Nat} {s : Site}
    (hpairing : s.waiting.isSome = pairing) (hcells : s.pad.cellCount = n)
    (now : Int) :
    ∀ step : Step Incoming,
      let watched := Pad.service.runStep now s.pad (padStep pairing n step)
      HandsOver s
        (((padStep pairing n step).answered watched.1).filterMap returned?)
        (service.runStep now s step).2.2
  | ⟨r, delay, during, ending⟩ => by
      rw [padStep]
      by_cases htarget : r.target pairing = .route .submit
      · have hevent : (r.event? pairing n).getD .observe = .submit := by
          rw [Incoming.event?, htarget]
          rfl
        have hstart : start now r s = s.startSubmit now := by
          simp only [start, hpairing, htarget]
        rw [hevent]
        obtain ⟨p, hid, hkept, hbegins⟩ := startSubmit_cases s now
        have hbegun : HandsOver s [] { s with pad := p } :=
          .of_pad hid hkept rfl
        rcases hbegins with ⟨request, flight, log, hserved, hwatched⟩
          | ⟨result, log, log', hserved, hwatched, hreason⟩
        · rw [← hstart, ← service_start] at hserved
          rw [Service.runStep_waiting hserved,
            Service.runStep_waiting (s := Pad.service) hwatched]
          -- what is served meanwhile is handed over before the submission
          have hduring := runSteps_handsOver (s := { s with pad := p }) hpairing
            (hkept.trans hcells) (now + delay) during
          obtain ⟨-, hnow, hmet⟩ := runSteps_follows
            (s := { s with pad := p }) ⟨rfl, hpairing, hkept.trans hcells⟩
            (now + delay) during
          dsimp only at hduring hnow hmet ⊢
          rw [← hnow, ← hmet.pad, Step.answered, List.filterMap_append]
          exact hbegun.trans (hduring.trans (.finish _ _ flight ending rfl))
        · rw [← hstart, ← service_start] at hserved
          rw [Service.runStep_done hserved,
            Service.runStep_done (s := Pad.service) hwatched]
          dsimp only
          rw [Step.answered_done, filterMap_returned? rfl]
          exact hbegun.trans (.conclude _ hreason)
      · obtain ⟨result, log, p, waiting, result', log', hserved, hwatched,
          hreturned, hid, hkept, hwaiting⟩ :=
            start_other hpairing hcells htarget now
        rw [← service_start] at hserved
        rw [Service.runStep_done hserved,
          Service.runStep_done (s := Pad.service) hwatched]
        dsimp only
        rw [Step.answered_done, List.filterMap_cons_none
          (returned?_other hreturned)]
        exact .of_pad hid hkept hwaiting

/-- And so do steps. -/
theorem runSteps_handsOver {pairing : Bool} {n : Nat} {s : Site}
    (hpairing : s.waiting.isSome = pairing) (hcells : s.pad.cellCount = n)
    (now : Int) :
    ∀ steps : List (Step Incoming),
      let watched := Pad.service.runSteps now s.pad (padSteps pairing n steps)
      HandsOver s
        ((Step.allAnswered (padSteps pairing n steps) watched.1).filterMap
          returned?)
        (service.runSteps now s steps).2.2
  | [] => .of_pad rfl rfl rfl
  | step :: steps => by
      have hfirst := runStep_handsOver hpairing hcells now step
      have hrest := runSteps_handsOver (hfirst.waiting.trans hpairing)
        (hfirst.cells.trans hcells) (service.runStep now s step).2.1 steps
      obtain ⟨-, hnow, hnext⟩ :=
        runStep_follows ⟨rfl, hpairing, hcells⟩ now step
      rw [padSteps, Service.runSteps_cons, Service.runSteps_cons]
      dsimp only at hfirst hrest hnow hnext ⊢
      rw [hnow] at hrest ⊢
      rw [hnext.pad] at hrest
      rw [Step.allAnswered, List.filterMap_append]
      exact hfirst.trans hrest

end

-- ============================================================== closing

/-- Where there is a journal, what is recorded is handed to its writer. -/
theorem record_of_journal {w : Writer} (h : s.journal = some w) (o : Outcome) :
    let written := w.append s.store s.pad.uniqueId o.report s.clock
    (s.record o).2 = s.afterWriting written.2.1 written.2.2 := by
  rw [← concludeSubmit_eq_record]
  exact (concludeSubmit_of_journal h o).2

/-- Where there is none, nothing is recorded. -/
theorem recordAll_of_none (h : s.journal = none) (os : List Outcome) :
    s.recordAll os = s := by
  have hrecord (o : Outcome) : (s.record o).2 = s := by
    rw [record, h]
  induction os with
  | nil => rfl
  | cons o os ih => rw [recordAll, hrecord, ih]

/-- A writer that has filed attempts files what is recorded behind them, each
with the reading of the clock for its number. -/
theorem recordAll_files {w : Writer} {directory : Text}
    {as : List Attempt} {ts : Nat → Binary64} {n : Nat} (h : s.journal = some w)
    (hreadings : ∀ k, s.reading k = .float (ts (n + k))) (hnext : w.nextId = n)
    (hfiling : Filing w s.store directory as) (os : List Outcome) :
    ∃ w', (s.recordAll os).journal = some w'
      ∧ Filing w' (s.recordAll os).store directory
        (as ++ attemptsFor s.pad.uniqueId ts n os) := by
  induction os generalizing s w as n with
  | nil => exact ⟨w, h, (List.append_nil as).symm ▸ hfiling⟩
  | cons o os ih =>
      obtain ⟨hnext', hfiling'⟩ := hfiling.append s.pad.uniqueId (ts n) o
      have hrecord := record_of_journal h o
      have hclock : s.clock = .float (ts n) := hreadings 0
      rw [hclock] at hrecord
      dsimp only at hrecord
      rw [hnext] at hnext' hfiling'
      -- the readings behind the first are those for the numbers behind it
      have hlater (w' : Writer) (store : Store) (k : Nat) :
          (s.afterWriting w' store).reading k = .float (ts (n + 1 + k)) := by
        rw [reading_afterWriting, hreadings, Nat.add_assoc, Nat.add_comm 1 k]
      obtain ⟨w', hjournal, hrest⟩ :=
        ih (s := s.afterWriting _ _) (n := n + 1) rfl (hlater _ _) hnext'
          hfiling'
      rw [List.append_assoc] at hrest
      rw [recordAll, hrecord]
      exact ⟨w', hjournal, hrest⟩

namespace HandsOver

/-- Without a journal the store is what it was. -/
theorem store_eq (h : HandsOver s os s') (hnone : s.journal = none) :
    s'.closeJournal.store = s.store := by
  obtain ⟨p, waiting, rfl⟩ := h.recorded
  rw [recordAll_of_none hnone, closeJournal, hnone]

/-- A journal that was begun with nothing in it is left with the attempts of
what was handed over. -/
theorem filed (h : HandsOver s os s') {w : Writer} {directory : Text}
    {ts : Nat → Binary64} (hjournal : s.journal = some w)
    (hreadings : ∀ k, s.reading k = .float (ts (1 + k))) (hnext : w.nextId = 1)
    (hfiling : Filing w s.store directory []) :
    Filed s'.closeJournal.store directory
      (attemptsFor s.pad.uniqueId ts 1 os) := by
  obtain ⟨p, waiting, rfl⟩ := h.recorded
  obtain ⟨w', hjournal', hfiling'⟩ :=
    recordAll_files hjournal hreadings hnext hfiling os
  rw [closeJournal]
  dsimp only
  rw [hjournal']
  exact hfiling'.close

end HandsOver

end Site

end DevicePairing.Web
