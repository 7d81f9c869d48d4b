/-
What the journal holds of a run.

A server with a journal and the pad that follows it are served the same
script; the pad returns outcomes, and the server answers requests and
writes. Both trees of answers are read off in the order in which they
came (`Step.allAnswered`), and put side by side: `Accounts` says of one
answer what the pad returned for it, what the server answered, and which
outcome the journal has gained. `AccountsAll` goes through a run and says
besides what is written in the journal after every single answer, also
when the answer was given while another submission was still waited for.

Every record has the time of its own append. The readings of the wall
clock are a sequence given beforehand, of which the opening of the
journal takes the first and each append the next; nothing is assumed
about them, so a clock may stand still or be set back during the run.

The invariant is `Recording`: the writer has been handed the outcomes so
far and nothing else. A submission touches the journal only where the pad
is done with it, so there is one lemma about its end (`Recording.conclude`)
for all the ways in which it can come to it.
-/
import DevicePairing.Proofs.Client
import DevicePairing.Proofs.Journal.Outcomes
import DevicePairing.Proofs.Web.Events

namespace DevicePairing

-- ============================================================== outcomes

namespace Pad

variable {p : Pad} {now : Int} {o : Outcome}

theorem isScalar_judged (isStale : Bool) (h : o.reason.IsScalar) :
    (judged isStale o).reason.IsScalar := by
  rw [judged]
  split
  · exact Text.isScalar_ofString "abandoned"
  · exact h

/-- The reasons of outcomes that a submission returns are made of
characters. -/
theorem isScalar_finishSubmit {flight : Flight} {ending : Ending}
    (h : (p.finishSubmit now flight ending).1.value = .ok (some o)) :
    o.reason.IsScalar := by
  cases hown : (p.client.finish now flight.started ending).value with
  | ok own =>
      rw [(finishSubmit_of_ok flight hown).1] at h
      cases h
      obtain ⟨ms, -, houtcome⟩ := Client.finish_eq_ok hown
      exact isScalar_judged _ (Ending.isScalar_reason houtcome)
  | error f =>
      rw [(finishSubmit_of_error flight hown).1] at h
      cases h

theorem isScalar_startSubmit {log : List Text} {q : Pad}
    (h : p.startSubmit now = (⟨.done (.ok (some o)), log⟩, q)) :
    o.reason.IsScalar := by
  cases hrefusal : p.refusal? with
  | some line =>
      rw [startSubmit_of_refusal hrefusal] at h
      cases h
  | none =>
      cases hrequest : p.client.request p.submission with
      | ok request =>
          rw [startSubmit_of_sent hrefusal hrequest] at h
          cases h
      | error f =>
          rw [startSubmit_of_unsent hrefusal hrequest] at h
          injection h with hopening
          injection hopening with hdone
          injection hdone with hvalue
          exact isScalar_finishSubmit hvalue

/-- What is returned for another event is not the outcome of a submission. -/
theorem start_ne_submitted {e : Event} (he : e ≠ .submit)
    {result : Except Fault Reaction} {log : List Text} {q : Pad}
    (h : Pad.start now e p = (⟨.done result, log⟩, q)) (x : Option Outcome) :
    result ≠ .ok (.submitted x) := by
  rintro rfl
  cases e with
  | submit => exact he rfl
  | observe => cases h
  | input index raw =>
      simp only [Pad.start] at h
      split at h
      · cases h
      · cases h
  | focus index =>
      simp only [Pad.start] at h
      split at h
      · cases h
      · cases h

end Pad

namespace Web

open Journal (Written Logging attemptsFrom entries filesIn linesAt linesPath)
open Pad (Event Flight Reaction)

-- =============================================================== accounts

/-- The outcome that a pad returned with an answer, if it returned one. -/
def returned? (y : Event × Answer Pad Reaction) : Option Outcome :=
  match y.2.result with
  | .ok (.submitted o) => o
  | _ => none

namespace Site

/-- How the journal of a device accounts for an answer, with the outcomes
before it and after it: what the server answered, beside what the pad
returned. -/
inductive Accounts (pairing : Bool) (u : Text) (ts : Nat → Binary64)
    (os : List Outcome) :
    Incoming × Answer Site Response → Event × Answer Pad Reaction →
    List Outcome → Prop
  /-- Another request adds nothing. -/
  | other {r : Incoming} {a : Answer Site Response} {e : Event}
      {b : Answer Pad Reaction} (htarget : r.target pairing ≠ .route .submit)
      (hreturned : ∀ o, b.result ≠ .ok (.submitted o)) :
      Accounts pairing u ts os (r, a) (e, b) os
  /-- A submission that the pad ignored adds nothing, and the answer has no
  outcome. -/
  | ignored {r : Incoming} {a : Answer Site Response} {b : Answer Pad Reaction}
      (htarget : r.target pairing = .route .submit)
      (hreturned : b.result = .ok (.submitted none))
      (hresult : a.result = .ok (submissionResponse a.after.pad none)) :
      Accounts pairing u ts os (r, a) (.submit, b) os
  /-- A submission that ended with a fault adds nothing. -/
  | raised {r : Incoming} {a : Answer Site Response} {b : Answer Pad Reaction}
      {f : Fault} (htarget : r.target pairing = .route .submit)
      (hreturned : b.result = .error f)
      (hresult : a.result = shield (.error f)) :
      Accounts pairing u ts os (r, a) (.submit, b) os
  /-- A submission with an outcome adds it, and the answer reports it, if it
  fits the columns of the table. -/
  | saved {r : Incoming} {a : Answer Site Response} {b : Answer Pad Reaction}
      {o : Outcome} (htarget : r.target pairing = .route .submit)
      (hreturned : b.result = .ok (.submitted (some o)))
      (hfits : (Journal.Entry.mk u o (ts (os.length + 1))).Fits (os.length + 1))
      (hresult : a.result = .ok (submissionResponse a.after.pad (some o))) :
      Accounts pairing u ts os (r, a) (.submit, b) (os ++ [o])
  /-- It adds it also if it does not fit, but the answer is a fault. -/
  | unfit {r : Incoming} {a : Answer Site Response} {b : Answer Pad Reaction}
      {o : Outcome} (htarget : r.target pairing = .route .submit)
      (hreturned : b.result = .ok (.submitted (some o)))
      (hfits : ¬(Journal.Entry.mk u o (ts (os.length + 1))).Fits
        (os.length + 1))
      (hresult : a.result = .ok (.bare 500)) :
      Accounts pairing u ts os (r, a) (.submit, b) (os ++ [o])

/-- How the journal accounts for answers one after the other. After each of
them it is the journal of the outcomes so far. -/
inductive AccountsAll (pairing : Bool) (directory u : Text)
    (ts : Nat → Binary64) :
    List Outcome → List (Incoming × Answer Site Response) →
    List (Event × Answer Pad Reaction) → List Outcome → Prop
  | nil {os : List Outcome} : AccountsAll pairing directory u ts os [] [] os
  | cons {os os' os'' : List Outcome} {x : Incoming × Answer Site Response}
      {xs : List (Incoming × Answer Site Response)}
      {y : Event × Answer Pad Reaction}
      {ys : List (Event × Answer Pad Reaction)}
      (hfirst : Accounts pairing u ts os x y os')
      (hwritten : Written x.2.after.store directory u os')
      (hrest : AccountsAll pairing directory u ts os' xs ys os'') :
      AccountsAll pairing directory u ts os (x :: xs) (y :: ys) os''

variable {pairing : Bool} {n : Nat} {directory u : Text}
  {ts : Nat → Binary64} {os os' os'' : List Outcome}

theorem Accounts.eq_append {x : Incoming × Answer Site Response}
    {y : Event × Answer Pad Reaction} (h : Accounts pairing u ts os x y os') :
    os' = os ++ (returned? y).toList := by
  cases h with
  | @other r a e b _ hreturned =>
      have hnone : returned? (e, b) = none := by
        unfold returned?
        split
        · exact absurd ‹_› (hreturned _)
        · rfl
      rw [hnone]
      exact (List.append_nil os).symm
  | ignored _ hreturned | raised _ hreturned =>
      simp only [returned?, hreturned, Option.toList_none, List.append_nil]
  | saved _ hreturned | unfit _ hreturned =>
      simp only [returned?, hreturned, Option.toList_some]

namespace AccountsAll

variable {xs xs' : List (Incoming × Answer Site Response)}
  {ys ys' : List (Event × Answer Pad Reaction)}

theorem append (h : AccountsAll pairing directory u ts os xs ys os')
    (h' : AccountsAll pairing directory u ts os' xs' ys' os'') :
    AccountsAll pairing directory u ts os (xs ++ xs') (ys ++ ys') os'' := by
  induction h with
  | nil => exact h'
  | cons hfirst hwritten _ ih => exact .cons hfirst hwritten (ih h')

/-- The journal gains what the pad returned, in the same order. -/
theorem eq_append (h : AccountsAll pairing directory u ts os xs ys os') :
    os' = os ++ ys.filterMap returned? := by
  induction h with
  | nil => exact (List.append_nil _).symm
  | @cons _ _ _ _ _ y ys hfirst _ _ ih =>
      rw [ih, hfirst.eq_append, List.append_assoc]
      cases hy : returned? y with
      | none => rw [List.filterMap_cons_none hy]; rfl
      | some o => rw [List.filterMap_cons_some hy]; rfl

end AccountsAll

-- ============================================================== invariant

/-- The readings of the wall clock from the next one on. -/
def reading (s : Site) : Nat → Json
  | 0 => s.clock
  | n + 1 => s.later n

theorem reading_afterWriting (s : Site) (w : Journal.Writer) (store : Store)
    (n : Nat) : (s.afterWriting w store).reading n = s.reading (n + 1) := by
  cases n <;> rfl

/-- A server of `n` cells whose journal has been handed outcomes of the
device of its pad, and nothing else, and whose readings of the wall clock are
those for the places behind them. -/
structure Recording (pairing : Bool) (n : Nat) (directory u : Text)
    (ts : Nat → Binary64) (s : Site) (os : List Outcome) : Prop where
  journal : ∃ w, s.journal = some w ∧ Logging w s.store directory u ts os
  uniqueId : s.pad.uniqueId = .str u
  readings : ∀ k, s.reading k = .float (ts (os.length + 1 + k))
  waiting : s.waiting.isSome = pairing
  cells : s.pad.cellCount = n
  scalar : u.IsScalar
  reasons : ∀ o ∈ os, o.reason.IsScalar

variable {s : Site}

namespace Recording

theorem written (h : Recording pairing n directory u ts s os) :
    Written s.store directory u os := by
  obtain ⟨w, -, hlogging⟩ := h.journal
  exact hlogging.written h.scalar h.reasons

theorem written_close (h : Recording pairing n directory u ts s os) :
    Written s.closeJournal.store directory u os := by
  obtain ⟨w, hjournal, hlogging⟩ := h.journal
  rw [closeJournal, hjournal]
  exact hlogging.written_close h.scalar h.reasons

theorem linesAt_close (h : Recording pairing n directory u ts s os) :
    linesAt s.closeJournal.store (linesPath directory)
      = (attemptsFrom 1 (entries u ts 1 os)).map Attempt.line := by
  obtain ⟨w, hjournal, hlogging⟩ := h.journal
  rw [closeJournal, hjournal]
  exact hlogging.linesAt_close

/-- Whatever happens to the pad and to the registry. -/
theorem withPad (h : Recording pairing n directory u ts s os) {p : Pad}
    (hid : p.uniqueId = s.pad.uniqueId) (hcells : p.cellCount = s.pad.cellCount)
    {waiting : Option Waiting} (hwaiting : waiting.isSome = s.waiting.isSome) :
    Recording pairing n directory u ts { s with pad := p, waiting } os :=
  ⟨h.journal, hid.trans h.uniqueId, h.readings, hwaiting.trans h.waiting,
    hcells.trans h.cells, h.scalar, h.reasons⟩

/-- When the pad is done with a submission, the journal gains its outcome, if
it has one. -/
theorem conclude (h : Recording pairing n directory u ts s os)
    {result : Except Fault (Option Outcome)}
    (hreason : ∀ o, result = .ok (some o) → o.reason.IsScalar) {r : Incoming}
    (htarget : r.target pairing = .route .submit) {a : Answer Site Response}
    (hresult : a.result = shield (s.concludeSubmit result).1.value)
    (hafter : a.after = (s.concludeSubmit result).2) {b : Answer Pad Reaction}
    (hreturned : b.result = result.map .submitted) :
    ∃ os', Accounts pairing u ts os (r, a) (.submit, b) os'
      ∧ Recording pairing n directory u ts (s.concludeSubmit result).2 os' := by
  rcases result with f | _ | o
  · exact ⟨os, .raised htarget hreturned hresult, h⟩
  · refine ⟨os, .ignored htarget hreturned ?_, h⟩
    rw [hafter]
    exact hresult
  · obtain ⟨w, hjournal, hlogging⟩ := h.journal
    obtain ⟨hnext, hfits, hunfit⟩ := hlogging.append o
    have hreasons : ∀ o' ∈ os ++ [o], o'.reason.IsScalar :=
      List.forall_mem_append.mpr
        ⟨h.reasons, List.forall_mem_singleton.mpr (hreason o rfl)⟩
    obtain ⟨hvalue, hsite⟩ := concludeSubmit_of_journal hjournal o
    have hclock : s.clock = .float (ts (os.length + 1)) := h.readings 0
    rw [h.uniqueId, hclock] at hvalue hsite
    have hreadings (store : Store) (w' : Journal.Writer) (k : Nat) :
        (s.afterWriting w' store).reading k
          = .float (ts ((os ++ [o]).length + 1 + k)) := by
      rw [reading_afterWriting, h.readings, List.length_append,
        List.length_singleton, Nat.add_assoc _ 1 k, Nat.add_comm 1 k]
    have hkept : Recording pairing n directory u ts
        (s.concludeSubmit (.ok (some o))).2 (os ++ [o]) := by
      rw [hsite]
      exact ⟨⟨_, rfl, hnext⟩, h.uniqueId, hreadings _ _, h.waiting, h.cells,
        h.scalar, hreasons⟩
    have hpad : a.after.pad = s.pad := by rw [hafter, hsite, afterWriting_pad]
    refine ⟨os ++ [o], ?_, hkept⟩
    by_cases he : (Journal.Entry.mk u o (ts (os.length + 1))).Fits
      (os.length + 1)
    · refine .saved htarget hreturned he ?_
      rw [hresult, hvalue, hfits he, hpad]
      rfl
    · obtain ⟨f, hfamily, herror⟩ := hunfit he
      refine .unfit htarget hreturned he ?_
      rw [hresult, hvalue, herror]
      show shield (.error f) = _
      rw [shield, hfamily]

end Recording

-- =============================================================== requests

/-- A request that is no submission changes the pad and the registry at
most. -/
theorem start_of_other {r : Incoming}
    (h : r.target s.waiting.isSome ≠ .route .submit) (now : Int) :
    ∃ result log p waiting, start now r s
      = (⟨.done result, log⟩, { s with pad := p, waiting }) := by
  unfold start
  cases htarget : r.target s.waiting.isSome with
  | route route =>
      cases route with
      | submit => exact absurd htarget h
      | page | status | asset =>
          exact ⟨_, _, s.pad, s.waiting, rfl⟩
      | cell =>
          simp only [serve]
          cases s.serveCell r with
          | ok served => exact ⟨_, _, served.2, s.waiting, rfl⟩
          | error f => exact ⟨_, _, s.pad, s.waiting, rfl⟩
      | focus =>
          simp only [serve]
          cases s.serveFocus r with
          | ok served => exact ⟨_, _, served.2, s.waiting, rfl⟩
          | error f => exact ⟨_, _, s.pad, s.waiting, rfl⟩
      | submitPin | unpair =>
          simp only [serve]
          cases hwaiting : s.waiting with
          | none => exact ⟨_, _, s.pad, s.waiting, rfl⟩
          | some w => exact ⟨_, _, s.pad, _, rfl⟩
  | _ => exact ⟨_, _, s.pad, s.waiting, rfl⟩

/-- The events of requests that are no submissions are none either. -/
theorem event?_ne_submit {r : Incoming}
    (h : r.target pairing ≠ .route .submit) :
    (r.event? pairing n).getD .observe ≠ .submit := by
  unfold Incoming.event?
  split
  · cases r.cell? n <;> exact Event.noConfusion
  · cases r.cell? n <;> exact Event.noConfusion
  · exact absurd ‹_› h
  · exact Event.noConfusion

/-- A request that is no submission is answered at once, as the pad's event
is. -/
theorem start_other (hwaiting : s.waiting.isSome = pairing)
    (hcells : s.pad.cellCount = n) {r : Incoming}
    (htarget : r.target pairing ≠ .route .submit) (now : Int) :
    ∃ result log p waiting result' log',
      start now r s = (⟨.done result, log⟩, { s with pad := p, waiting })
        ∧ Pad.start now ((r.event? pairing n).getD .observe) s.pad
          = (⟨.done result', log'⟩, p)
        ∧ (∀ o, result' ≠ .ok (.submitted o))
        ∧ p.uniqueId = s.pad.uniqueId ∧ p.cellCount = s.pad.cellCount
        ∧ waiting.isSome = s.waiting.isSome := by
  have he := event?_ne_submit (n := n) htarget
  obtain ⟨hsame, hid⟩ :=
    frame_start now ((r.event? pairing n).getD .observe) s.pad
  obtain ⟨result, log, p, waiting, hstart⟩ :=
    start_of_other (by rw [hwaiting]; exact htarget) now
  cases hevent : r.event? s.waiting.isSome s.pad.cellCount with
  | none =>
      obtain ⟨_, _, s', hserved, hpad, hkept⟩ := start_of_none hevent now
      rw [hstart] at hserved
      cases hserved
      rw [hwaiting, hcells] at hevent
      rw [hevent] at he ⊢
      change p = s.pad at hpad
      subst hpad
      have hobserved : Pad.start now .observe s.pad
          = (⟨.done (.ok .observed), []⟩, s.pad) := rfl
      exact ⟨result, log, _, _, _, _, hstart, rfl,
        Pad.start_ne_submitted he hobserved, rfl, rfl, hkept⟩
  | some e =>
      have hbegins := start_begins hevent now
      rw [hwaiting, hcells] at hevent
      rw [hevent, Option.getD_some] at he hsame hid ⊢
      rw [hstart] at hbegins
      rcases hpadStart : Pad.start now e s.pad with ⟨⟨opening, log'⟩, q⟩
      rw [hpadStart] at hbegins hsame hid
      cases hbegins with
      | done hpad hkept =>
          change p = q at hpad
          subst hpad
          exact ⟨result, log, _, _, _, _, hstart, rfl,
            Pad.start_ne_submitted he hpadStart, hid, hsame, hkept⟩

/-- A submission that begins keeps both waiting, or the pad is done with it and
the server concludes. -/
theorem startSubmit_cases (s : Site) (now : Int) :
    ∃ p, p.uniqueId = s.pad.uniqueId ∧ p.cellCount = s.pad.cellCount
      ∧ ((∃ request flight log,
          s.startSubmit now
            = (⟨.waiting request flight, log⟩, { s with pad := p })
          ∧ Pad.service.start now .submit s.pad
            = (⟨.waiting request flight, log⟩, p))
        ∨ ∃ result log log',
          let concluded := { s with pad := p }.concludeSubmit result
          s.startSubmit now
            = (⟨.done (shield concluded.1.value), log⟩, concluded.2)
          ∧ Pad.service.start now .submit s.pad
            = (⟨.done (result.map .submitted), log'⟩, p)
          ∧ ∀ o, result = .ok (some o) → o.reason.IsScalar) := by
  obtain ⟨hcells, hid⟩ := frame_start now .submit s.pad
  rcases hsubmit : s.pad.startSubmit now with ⟨⟨opening, log⟩, p⟩
  cases opening with
  | waiting request flight =>
      have hwatched : Pad.start now .submit s.pad
          = (⟨.waiting request flight, log⟩, p) := by
        simp only [Pad.start, hsubmit]
      rw [hwatched] at hcells hid
      refine ⟨p, hid, hcells, .inl ⟨request, flight, log, ?_, hwatched⟩⟩
      rw [Site.startSubmit, hsubmit]
  | done result =>
      have hwatched : Pad.start now .submit s.pad
          = (⟨.done (result.map .submitted), log⟩, p) := by
        simp only [Pad.start, hsubmit]
      rw [hwatched] at hcells hid
      refine ⟨p, hid, hcells, .inr ⟨result,
        log ++ ({ s with pad := p }.concludeSubmit result).1.log, log,
        ?_, hwatched, ?_⟩⟩
      · rw [Site.startSubmit, hsubmit]
      · rintro o rfl
        exact Pad.isScalar_startSubmit hsubmit

/-- A request that is no submission leaves the journal as it is. -/
theorem Recording.other (h : Recording pairing n directory u ts s os)
    {r : Incoming} (htarget : r.target pairing ≠ .route .submit) (now : Int) :
    ∃ result log s' result' log', start now r s = (⟨.done result, log⟩, s')
      ∧ Pad.start now ((r.event? pairing n).getD .observe) s.pad
        = (⟨.done result', log'⟩, s'.pad)
      ∧ (∀ o, result' ≠ .ok (.submitted o))
      ∧ Recording pairing n directory u ts s' os := by
  obtain ⟨result, log, p, waiting, result', log', hstart, hpad, hreturned, hid,
    hcells, hwaiting⟩ := start_other h.waiting h.cells htarget now
  exact ⟨result, log, _, result', log', hstart, hpad, hreturned,
    h.withPad hid hcells hwaiting⟩

/-- Nor is anything written when a submission begins. -/
theorem Recording.startSubmit (h : Recording pairing n directory u ts s os)
    (now : Int) :
    (∃ request flight log log' p,
        s.startSubmit now
          = (⟨.waiting request flight, log⟩, { s with pad := p })
        ∧ Pad.service.start now .submit s.pad
          = (⟨.waiting request flight, log'⟩, p)
        ∧ Recording pairing n directory u ts { s with pad := p } os)
      ∨ ∃ result log log' p,
        let concluded := { s with pad := p }.concludeSubmit result
        s.startSubmit now
          = (⟨.done (shield concluded.1.value), log⟩, concluded.2)
        ∧ Pad.service.start now .submit s.pad
          = (⟨.done (result.map .submitted), log'⟩, p)
        ∧ (∀ o, result = .ok (some o) → o.reason.IsScalar)
        ∧ Recording pairing n directory u ts { s with pad := p } os := by
  obtain ⟨p, hid, hcells, ⟨request, flight, log, hserved, hwatched⟩
    | ⟨result, log, log', hserved, hwatched, hreason⟩⟩ :=
        startSubmit_cases s now
  · exact .inl ⟨request, flight, log, log, p, hserved, hwatched,
      h.withPad hid hcells rfl⟩
  · exact .inr ⟨result, log, log', p, hserved, hwatched, hreason,
      h.withPad hid hcells rfl⟩

/-- A submission that waited is concluded when its request has ended. -/
theorem Recording.finish (h : Recording pairing n directory u ts s os)
    {r : Incoming} (htarget : r.target pairing = .route .submit) (now : Int)
    (flight : Flight) (ending : Ending) {a : Answer Site Response}
    (hresult : a.result = (Site.finish now flight ending s).1.value)
    (hafter : a.after = (Site.finish now flight ending s).2)
    {b : Answer Pad Reaction}
    (hreturned : b.result = (Pad.finish now flight ending s.pad).1.value) :
    ∃ os', Accounts pairing u ts os (r, a) (.submit, b) os'
      ∧ Recording pairing n directory u ts (Site.finish now flight ending s).2
        os' := by
  obtain ⟨hcells, hid⟩ := frame_finish now flight ending s.pad
  exact (h.withPad hid hcells rfl).conclude
    (fun _ => Pad.isScalar_finishSubmit) htarget hresult hafter hreturned

-- ================================================================== runs

mutual

/-- A step is accounted for. -/
theorem runStep_accounts {pairing : Bool} {n : Nat} {directory u : Text}
    {ts : Nat → Binary64} {s : Site} {os : List Outcome}
    (h : Recording pairing n directory u ts s os) (now : Int) :
    ∀ step : Step Incoming,
      let served := service.runStep now s step
      let watched := Pad.service.runStep now s.pad (padStep pairing n step)
      (∃ os', AccountsAll pairing directory u ts os (step.answered served.1)
          ((padStep pairing n step).answered watched.1) os'
        ∧ Recording pairing n directory u ts served.2.2 os')
      ∧ served.2.1 = watched.2.1 ∧ served.2.2.pad = watched.2.2
  | ⟨r, delay, during, ending⟩ => by
      rw [padStep]
      by_cases htarget : r.target pairing = .route .submit
      · have hevent : (r.event? pairing n).getD .observe = .submit := by
          rw [Incoming.event?, htarget]
          rfl
        have hstart : start now r s = s.startSubmit now := by
          simp only [start, h.waiting, htarget]
        rw [hevent]
        rcases h.startSubmit now with
          ⟨request, flight, log, log', p, hserved, hwatched, hkept⟩
          | ⟨result, log, log', p, hserved, hwatched, hreason, hkept⟩
        · rw [← hstart, ← service_start] at hserved
          rw [Service.runStep_waiting hserved,
            Service.runStep_waiting (s := Pad.service) hwatched]
          -- what is served meanwhile is accounted for before the submission
          obtain ⟨⟨os', hduring, hmet⟩, hnow, hpad⟩ :=
            runSteps_accounts hkept (now + delay) during
          dsimp only at hduring hmet hnow hpad ⊢
          rw [← hnow, ← hpad, Step.answered, Step.answered]
          obtain ⟨os'', haccounts, hlast⟩ :=
            hmet.finish (a := ⟨_, _, _, _, _⟩) (b := ⟨_, _, _, _, _⟩) htarget _
              flight ending rfl rfl rfl
          refine ⟨⟨os'', hduring.append (.cons haccounts hlast.written .nil),
            hlast⟩, rfl, ?_⟩
          exact (finish_frame _ _ _ _).1
        · rw [← hstart, ← service_start] at hserved
          rw [Service.runStep_done hserved,
            Service.runStep_done (s := Pad.service) hwatched]
          dsimp only
          rw [Step.answered_done, Step.answered_done]
          obtain ⟨os', haccounts, hlast⟩ :=
            hkept.conclude (a := ⟨_, _, _, _, _⟩) (b := ⟨_, _, _, _, _⟩) hreason
              htarget rfl rfl rfl
          exact ⟨⟨os', .cons haccounts hlast.written .nil, hlast⟩, rfl,
            (concludeSubmit_frame _ _).1⟩
      · obtain ⟨result, log, s', result', log', hserved, hwatched, hreturned,
          hkept⟩ := h.other htarget now
        rw [← service_start] at hserved
        rw [Service.runStep_done hserved,
          Service.runStep_done (s := Pad.service) hwatched]
        dsimp only
        rw [Step.answered_done, Step.answered_done]
        exact ⟨⟨os, .cons (.other htarget hreturned) hkept.written .nil, hkept⟩,
          rfl, rfl⟩

/-- And so are steps. -/
theorem runSteps_accounts {pairing : Bool} {n : Nat} {directory u : Text}
    {ts : Nat → Binary64} {s : Site} {os : List Outcome}
    (h : Recording pairing n directory u ts s os) (now : Int) :
    ∀ steps : List (Step Incoming),
      let served := service.runSteps now s steps
      let watched := Pad.service.runSteps now s.pad (padSteps pairing n steps)
      (∃ os', AccountsAll pairing directory u ts os
          (Step.allAnswered steps served.1)
          (Step.allAnswered (padSteps pairing n steps) watched.1) os'
        ∧ Recording pairing n directory u ts served.2.2 os')
      ∧ served.2.1 = watched.2.1 ∧ served.2.2.pad = watched.2.2
  | [] => ⟨⟨os, .nil, h⟩, rfl, rfl⟩
  | step :: steps => by
      obtain ⟨⟨os', hfirst, hnext⟩, hnow, hpad⟩ := runStep_accounts h now step
      obtain ⟨⟨os'', hrest, hlast⟩, hnow', hpad'⟩ :=
        runSteps_accounts hnext (service.runStep now s step).2.1 steps
      rw [padSteps, Service.runSteps_cons, Service.runSteps_cons]
      dsimp only
      rw [← hnow, ← hpad]
      exact ⟨⟨os'', hfirst.append hrest, hlast⟩, hnow', hpad'⟩

end

end Site

/-- One record for every finished submission. A server whose journal was opened
in a directory without files is served any requests, also while submissions
are under way, and the requests to the pairing service end in any way; the
wall clock may read anything for the record with each number. Every answer is
accounted for, beside what the pad returned for it: the journal gains exactly
the outcomes that the pad returns, in the order in which it returns them, and
after each answer its lines tell of the outcomes so far, with the numbers from
one on. They still do when the journal has been closed, and each line was
written with the reading for its number. -/
theorem Site.one_record_per_submission {store store' : Store}
    {directory u : Text} {time : Json} {w : Journal.Writer} {log : List Text}
    (hu : u.IsScalar) (hempty : filesIn store directory = [])
    (hopen : Journal.openAt store directory time = (⟨.ok w, log⟩, store'))
    {pad : Pad} (hid : pad.uniqueId = .str u) (waiting : Option Waiting)
    (ts : Nat → Binary64) (now : Int) (steps : List (Step Incoming)) :
    let s : Site :=
      ⟨pad, waiting, some w, store', .float (ts 1),
        fun k => .float (ts (k + 2))⟩
    let script := padSteps waiting.isSome pad.cellCount steps
    let served := service.runSteps now s steps
    let watched := Pad.service.runSteps now pad script
    let answers := Step.allAnswered steps served.1
    let returns := Step.allAnswered script watched.1
    let outcomes := returns.filterMap returned?
    answers.map (·.2.after) = Answer.statesOf served.1
      ∧ returns.map (·.2.after) = Answer.statesOf watched.1
      ∧ (Answer.statesOf served.1).map Site.pad = Answer.statesOf watched.1
      ∧ AccountsAll waiting.isSome directory u ts [] answers returns outcomes
      ∧ Written served.2.2.store directory u outcomes
      ∧ Written served.2.2.closeJournal.store directory u outcomes
      ∧ linesAt served.2.2.closeJournal.store (linesPath directory)
        = (attemptsFrom 1 (entries u ts 1 outcomes)).map Attempt.line := by
  intro s script served watched answers returns outcomes
  have hreadings : ∀ k, s.reading k = .float (ts (0 + 1 + k)) := by
    rintro (_ | k)
    · rfl
    · show Json.float (ts (k + 2)) = _
      rw [Nat.add_comm (0 + 1) (k + 1)]
  have hbegins : Recording waiting.isSome pad.cellCount directory u ts s [] :=
    ⟨⟨w, rfl, .opened hempty hopen u ts⟩, hid, hreadings, rfl, rfl, hu,
      fun _ ho => absurd ho List.not_mem_nil⟩
  obtain ⟨⟨os, haccounts, hlast⟩, -⟩ := runSteps_accounts hbegins now steps
  obtain ⟨hstates, -⟩ := runSteps_follows (s := s) ⟨rfl, rfl, rfl⟩ now steps
  have hos : os = outcomes := haccounts.eq_append
  rw [hos] at haccounts hlast
  exact ⟨Service.map_after_allAnswered now s steps,
    Service.map_after_allAnswered now pad script, hstates, haccounts,
    hlast.written, hlast.written_close, hlast.linesAt_close⟩

/-- A submission that is asked for again while it is under way has one record,
and one whose status fits no column has its record as well. -/
theorem Site.one_record_of_unfit_status :
    let pad := Pad.new (.str "A1") ⟨"http://localhost:5000", .int 5, {}⟩ 1
    let typing : Step Incoming :=
      ⟨⟨"POST", "/api/cell", [],
        Text.utf8 "\x7b\"index\":0,\"value\":\"1\"\x7d"⟩, 0, [], .status 200⟩
    let submitting (during : List (Step Incoming)) (code : Int) :
        Step Incoming :=
      ⟨⟨"POST", "/api/submit", [], []⟩, 0, during, .status code⟩
    let steps := [submitting [] 200, typing,
      submitting [submitting [] 200] 200, submitting [] 70000]
    let ts : Nat → Binary64 := fun n => .ofInt n
    ∃ w log store', Journal.openAt {} "journal" (.int 1700000000)
        = (⟨.ok w, log⟩, store')
      ∧ ∃ outcomes : List Outcome,
        outcomes.map (fun o => (o.result, o.status, o.reason))
            = ([(.success, some 200, "ok"),
              (.failure, some 70000, "http 70000")]
              : List (Result × Option Int × Text))
          ∧ Written (service.runSteps 0
            ⟨pad, none, some w, store', .float (ts 1),
              fun k => .float (ts (k + 2))⟩
            steps).2.2.store "journal" "A1" outcomes := by
  intro pad typing submitting steps ts
  obtain ⟨w, log, store', hopen⟩ : ∃ w log store',
      Journal.openAt {} "journal" (.int 1700000000)
        = (⟨.ok w, log⟩, store') := by
    have hok : (Journal.openAt {} "journal" (.int 1700000000)).1.value.toBool
        = true := by decide +kernel
    rcases hopen : Journal.openAt {} "journal" (.int 1700000000)
      with ⟨⟨result, log⟩, store'⟩
    rw [hopen] at hok
    cases result with
    | ok w => exact ⟨w, log, store', rfl⟩
    | error f => cases hok
  have hid : Text.IsScalar "A1" := Text.isScalar_ofString "A1"
  obtain ⟨-, -, -, -, hwritten, -⟩ :=
    one_record_per_submission
      hid rfl hopen (show pad.uniqueId = _ from rfl) none
      ts 0 steps
  exact ⟨w, log, store', hopen, _, by decide +kernel, hwritten⟩

end Web

end DevicePairing
