/-
What the journal does not see.

Two servers are served requests that differ in nothing but what is typed
into cells, and there only in which digit it is. Then they stay alike:
their pads differ in nothing but digits (`Alike`), and everything else of
theirs is the same, the journal and the store with its files above all.
So a journal says nothing about the PINs that were entered, whatever is
served meanwhile and however requests to the pairing service end.

The scripts of the two runs are compared by `Step.Agree`, which follows
the tree of a script; the servers are compared after every section.
-/
import DevicePairing.Proofs.Pad.Cell
import DevicePairing.Proofs.Pad.Veil
import DevicePairing.Proofs.Web.Events

namespace DevicePairing

-- ================================================================ scripts

section Scripts

variable {α : Type}

mutual

/-- Scripts that agree but for their actions, which are related. -/
inductive Step.Agree (related : α → α → Prop) : Step α → Step α → Prop
  | step {action action' : α} {delay : Int} {during during' : List (Step α)}
      {ending : Ending} (haction : related action action')
      (hduring : Step.AllAgree related during during') :
      Step.Agree related ⟨action, delay, during, ending⟩
        ⟨action', delay, during', ending⟩

/-- Lists of scripts that agree one by one. -/
inductive Step.AllAgree (related : α → α → Prop) :
    List (Step α) → List (Step α) → Prop
  | nil : Step.AllAgree related [] []
  | cons {step step' : Step α} {steps steps' : List (Step α)}
      (hstep : Step.Agree related step step')
      (hsteps : Step.AllAgree related steps steps') :
      Step.AllAgree related (step :: steps) (step' :: steps')

end

end Scripts

namespace Web

open Pad (Event Flight)

-- =============================================================== requests

/-- Requests that differ at most in what is typed into a cell, and there
only in which digit it is: a request and itself, or requests to a cell
whose bodies name the same cell among `n`, with values that both hold a
digit or both hold none. -/
inductive Incoming.Alike (pairing : Bool) (n : Nat) : Incoming → Incoming → Prop
  | same (r : Incoming) : Alike pairing n r r
  | typed {r : Incoming} {body : Bytes} {i : Nat}
      {fields fields' : List (Text × Json)}
      (htarget : r.target pairing = .route .cell)
      (hcell : r.cell? n = some (i, fields))
      (hcell' : { r with body }.cell? n = some (i, fields'))
      (hdigit : (valueText fields).any CodePoint.isDigit
        = (valueText fields').any CodePoint.isDigit) :
      Alike pairing n r { r with body }

/-- Texts that hold a digit, or hold none, are alike as inputs. -/
theorem input_alike {t t' : Text}
    (h : t.any CodePoint.isDigit = t'.any CodePoint.isDigit) (index : Json) :
    (Event.input index (.str t)).Alike (.input index (.str t')) := by
  refine .input ?_
  rw [Cell.ofInput_str, Cell.ofInput_str]
  rw [← Cell.isSome_ofText, ← Cell.isSome_ofText] at h
  exact congrArg Except.ok (Pad.veiled_congr h)

namespace Site

/-- Servers of `n` cells that differ in nothing but digits. -/
structure Alike (pairing : Bool) (n : Nat) (s t : Site) : Prop where
  pad : s.pad.Alike t.pad
  rest : t = { s with pad := t.pad }
  waiting : s.waiting.isSome = pairing
  cells : s.pad.cellCount = n

variable {pairing : Bool} {n : Nat} {s t : Site}

namespace Alike

/-- What is done to the pads alone. -/
theorem withPad (h : Alike pairing n s t) {p q : Pad} (hpad : p.Alike q)
    (hcells : p.cellCount = s.pad.cellCount) :
    Alike pairing n { s with pad := p } { t with pad := q } := by
  refine ⟨hpad, ?_, h.waiting, hcells.trans h.cells⟩
  rw [h.rest]

theorem event? (h : Alike pairing n s t) (r : Incoming) :
    r.event? t.waiting.isSome t.pad.cellCount
      = r.event? s.waiting.isSome s.pad.cellCount := by
  rw [h.rest, h.pad.cellCount]

end Alike

-- ============================================================ submissions

/-- Without a journal nothing is written. -/
theorem concludeSubmit_of_none (h : s.journal = none)
    (result : Except Fault (Option Outcome)) :
    (s.concludeSubmit result).2 = s := by
  rcases result with f | _ | o
  · rfl
  · rfl
  · simp only [concludeSubmit, record, h]

/-- What two servers write that are alike is the same. -/
theorem Alike.concludeSubmit (h : Alike pairing n s t)
    (result : Except Fault (Option Outcome)) :
    Alike pairing n (s.concludeSubmit result).2
      (t.concludeSubmit result).2 := by
  have hjournal : t.journal = s.journal := by rw [h.rest]
  cases hw : s.journal with
  | none =>
      rw [concludeSubmit_of_none hw, concludeSubmit_of_none (hjournal.trans hw)]
      exact h
  | some w =>
      rcases result with f | _ | o
      · exact h
      · exact h
      · have hid : t.pad.uniqueId = s.pad.uniqueId :=
          (congrArg Pad.uniqueId h.pad).symm
        rw [(concludeSubmit_of_journal hw o).2,
          (concludeSubmit_of_journal (hjournal.trans hw) o).2, hid, h.rest]
        exact ⟨h.pad, rfl, h.waiting, h.cells⟩

/-- How two servers begin to serve requests: both are done and alike, or
both wait, for the same submission. -/
inductive OpensAlike (pairing : Bool) (n : Nat) :
    Logged (Opening Response Flight) × Site →
    Logged (Opening Response Flight) × Site → Prop
  | done {result result' : Except Fault Response} {log log' : List Text}
      {s t : Site} (h : Alike pairing n s t) :
      OpensAlike pairing n (⟨.done result, log⟩, s) (⟨.done result', log'⟩, t)
  | waiting
      {request request' : Request} {flight : Flight} {log log' : List Text}
      {s t : Site} (h : Alike pairing n s t) :
      OpensAlike pairing n (⟨.waiting request flight, log⟩, s)
        (⟨.waiting request' flight, log'⟩, t)

theorem cellCount_startSubmit (now : Int) (p : Pad) :
    (p.startSubmit now).2.cellCount = p.cellCount := by
  have hsame : (Pad.start now .submit p).2 = (p.startSubmit now).2 := by
    unfold Pad.start
    rcases p.startSubmit now with ⟨⟨_ | _, log⟩, q⟩ <;> rfl
  rw [← hsame]
  exact (frame_start now .submit p).1

/-- A submission begins alike on two servers that are alike. -/
theorem startSubmit_alike (h : Alike pairing n s t) (now : Int) :
    OpensAlike pairing n (s.startSubmit now) (t.startSubmit now) := by
  have hbegins := Pad.startSubmit_alike h.pad now
  have hcells := cellCount_startSubmit now s.pad
  unfold startSubmit
  rcases hs : s.pad.startSubmit now with ⟨⟨opening, log⟩, p⟩
  rcases ht : t.pad.startSubmit now with ⟨⟨opening', log'⟩, q⟩
  rw [hs, ht] at hbegins
  rw [hs] at hcells
  cases hbegins with
  | done _ hpad => exact .done ((h.withPad hpad hcells).concludeSubmit _)
  | waiting _ _ hpad => exact .waiting (h.withPad hpad hcells)
  | told _ _ hpad => exact .done ((h.withPad hpad hcells).concludeSubmit _)

/-- And ends alike. -/
theorem finish_alike (h : Alike pairing n s t) (now : Int) (flight : Flight)
    (ending : Ending) :
    Alike pairing n (finish now flight ending s).2
      (finish now flight ending t).2 := by
  obtain ⟨hended, hpad⟩ := h.pad.finishSubmit now flight ending
  have hcells : (s.pad.finishSubmit now flight ending).2.cellCount
      = s.pad.cellCount := (frame_finish now flight ending s.pad).1
  have hfinish (s : Site) : (finish now flight ending s).2
      = let ended := s.pad.finishSubmit now flight ending
        ({ s with pad := ended.2 }.concludeSubmit ended.1.value).2 := rfl
  rw [hfinish, hfinish]
  dsimp only
  rw [← hended]
  exact (h.withPad hpad hcells).concludeSubmit _

-- =============================================================== requests

/-- Inputs and focus events are served alike. -/
theorem start_event_alike (h : Alike pairing n s t) {r r' : Incoming}
    {route : Route} {e e' : Event} (htarget : r.target pairing = .route route)
    (htarget' : r'.target pairing = .route route)
    (hroute : route = .cell ∨ route = .focus) (he : r.event? pairing n = some e)
    (he' : r'.event? pairing n = some e') (halike : e.Alike e') (now : Int) :
    OpensAlike pairing n (start now r s) (start now r' t) := by
  have hwaiting : t.waiting.isSome = pairing := by rw [h.rest, h.waiting]
  have hcells : t.pad.cellCount = n := h.pad.cellCount.symm.trans h.cells
  rw [← h.waiting] at htarget
  rw [← hwaiting] at htarget'
  obtain ⟨haccepts, hstart⟩ := start_of_event htarget hroute
    (by rw [h.waiting, h.cells]; exact he) now
  obtain ⟨-, hstart'⟩ := start_of_event htarget' hroute
    (by rw [hwaiting, hcells]; exact he') now
  have hunsent : e = .submit → s.pad.refusal? ≠ none := by
    rintro rfl
    cases haccepts
  obtain ⟨-, hpad⟩ := Pad.start_alike h.pad halike hunsent now
  rw [hstart, hstart']
  exact .done (h.withPad hpad (frame_start now e s.pad).1)

/-- A request that names no cell leaves both servers as they are. -/
theorem start_no_event_alike
    (h : Alike pairing n s t) {r : Incoming} {route : Route}
    (htarget : r.target pairing = .route route)
    (hroute : route = .cell ∨ route = .focus) (hcell : r.cell? n = none)
    (now : Int) : OpensAlike pairing n (start now r s) (start now r t) := by
  have hwaiting : t.waiting.isSome = pairing := by rw [h.rest, h.waiting]
  have hcells : t.pad.cellCount = n := h.pad.cellCount.symm.trans h.cells
  obtain ⟨hbad, hdeep⟩ := start_of_no_event (s := s)
    (by rw [h.waiting]; exact htarget) hroute (by rw [h.cells]; exact hcell) now
  obtain ⟨hbad', hdeep'⟩ := start_of_no_event (s := t)
    (by rw [hwaiting]; exact htarget) hroute (by rw [hcells]; exact hcell) now
  cases hdocument : r.document? with
  | ok document =>
      rw [hbad document hdocument, hbad' document hdocument]
      exact .done h
  | error f =>
      rw [hdeep f hdocument, hdeep' f hdocument]
      exact .done h

/-- A request is served alike by servers that are alike. -/
theorem start_same_alike (h : Alike pairing n s t) (r : Incoming) (now : Int) :
    OpensAlike pairing n (start now r s) (start now r t) := by
  have hwaiting : t.waiting = s.waiting := by rw [h.rest]
  cases htarget : r.target pairing with
  | route route =>
      have hevent (hroute : route = .cell ∨ route = .focus) :
          OpensAlike pairing n (start now r s) (start now r t) := by
        cases hcell : r.cell? n with
        | none => exact start_no_event_alike h htarget hroute hcell now
        | some named =>
            obtain ⟨e, he⟩ : ∃ e, r.event? pairing n = some e := by
              rcases hroute with rfl | rfl
              · exact ⟨_, by rw [Incoming.event?, htarget, hcell]; rfl⟩
              · exact ⟨_, by rw [Incoming.event?, htarget, hcell]; rfl⟩
            exact start_event_alike h htarget htarget hroute he he (.same e) now
      cases route with
      | cell => exact hevent (.inl rfl)
      | focus => exact hevent (.inr rfl)
      | submit =>
          simp only [start, hwaiting, h.waiting, htarget]
          exact startSubmit_alike h now
      | page | status | asset =>
          simp only [start, hwaiting, h.waiting, htarget, serve]
          exact .done h
      | submitPin | unpair =>
          simp only [start, hwaiting, h.waiting, htarget, serve]
          cases hw : s.waiting with
          | none => exact .done h
          | some w =>
              refine .done ⟨h.pad, ?_, ?_, h.cells⟩
              · rw [h.rest]
              · rw [← h.waiting, hw]
                rfl
  | _ =>
      simp only [start, hwaiting, h.waiting, htarget]
      exact .done h

/-- Requests that look the same are begun with alike. -/
theorem start_alike (h : Alike pairing n s t) {r r' : Incoming}
    (hr : r.Alike pairing n r') (now : Int) :
    OpensAlike pairing n (start now r s) (start now r' t) := by
  cases hr with
  | same => exact start_same_alike h r now
  | @typed body i fields fields' htarget hcell hcell' hdigit =>
      have htarget' : ({ r with body } : Incoming).target pairing
          = .route .cell := htarget
      refine start_event_alike h htarget htarget' (.inl rfl) ?_ ?_
        (input_alike hdigit (.int i)) now
      · rw [Incoming.event?, htarget]
        dsimp only
        rw [hcell]
        rfl
      · rw [Incoming.event?, htarget']
        dsimp only
        rw [hcell']
        rfl

-- ================================================================== runs

mutual

/-- A step keeps servers alike, and takes them the same time. -/
theorem runStep_alike {pairing : Bool} {n : Nat} {s t : Site}
    (h : Alike pairing n s t) (now : Int) : ∀ {step step' : Step Incoming},
      Step.Agree (Incoming.Alike pairing n) step step' →
      let served := service.runStep now s step
      let served' := service.runStep now t step'
      served.2.1 = served'.2.1 ∧ Alike pairing n served.2.2 served'.2.2
  | _, _, @Step.Agree.step _ _ r r' delay during during' ending hr hduring => by
      have hbegins := start_alike h hr now
      rcases hstart : start now r s with ⟨⟨opening, log⟩, s'⟩
      rcases hstart' : start now r' t with ⟨⟨opening', log'⟩, t'⟩
      rw [hstart, hstart'] at hbegins
      cases hbegins with
      | done hnext =>
          rw [Service.runStep_done ((service_start now r s).trans hstart),
            Service.runStep_done ((service_start now r' t).trans hstart')]
          exact ⟨rfl, hnext⟩
      | waiting hnext =>
          obtain ⟨hnow, hlast⟩ := runSteps_alike hnext (now + delay) hduring
          rw [Service.runStep_waiting ((service_start now r s).trans hstart),
            Service.runStep_waiting ((service_start now r' t).trans hstart')]
          dsimp only
          rw [← hnow]
          exact ⟨rfl, finish_alike hlast _ _ ending⟩

/-- And so do steps. -/
theorem runSteps_alike {pairing : Bool} {n : Nat} {s t : Site}
    (h : Alike pairing n s t) (now : Int) :
    ∀ {steps steps' : List (Step Incoming)},
      Step.AllAgree (Incoming.Alike pairing n) steps steps' →
      let served := service.runSteps now s steps
      let served' := service.runSteps now t steps'
      served.2.1 = served'.2.1 ∧ Alike pairing n served.2.2 served'.2.2
  | _, _, .nil => ⟨rfl, h⟩
  | _, _, .cons hstep hsteps => by
      obtain ⟨hnow, hnext⟩ := runStep_alike h now hstep
      obtain ⟨hnow', hlast⟩ := runSteps_alike hnext _ hsteps
      rw [Service.runSteps_cons, Service.runSteps_cons]
      dsimp only
      rw [← hnow]
      exact ⟨hnow', hlast⟩

end

/-- Servers that are alike leave the same files behind. -/
theorem Alike.closeJournal (h : Alike pairing n s t) :
    s.closeJournal.store = t.closeJournal.store := by
  rw [h.rest]
  unfold Site.closeJournal
  cases s.journal <;> rfl

end Site

/-- The journal says nothing about the PINs. Two runs of a server, from any
state and with any readings of the wall clock to come, that agree in all
their requests, also in those served while a submission is under way, in how
long requests to the pairing service take and in how they end, and may
differ only in which digits are typed into cells, leave the same files
behind: the same lines and the same tables, before the journal is closed and
after. -/
theorem Site.journal_hides_pin (s : Site) (now : Int)
    {steps steps' : List (Step Incoming)}
    (h : Step.AllAgree (Incoming.Alike s.waiting.isSome s.pad.cellCount)
      steps steps') :
    let served := (service.runSteps now s steps).2.2
    let served' := (service.runSteps now s steps').2.2
    served.store = served'.store
      ∧ served.closeJournal.store = served'.closeJournal.store := by
  intro served served'
  have halike : Alike s.waiting.isSome s.pad.cellCount s s :=
    ⟨rfl, rfl, rfl, rfl⟩
  obtain ⟨-, hlast⟩ := runSteps_alike halike now h
  refine ⟨?_, hlast.closeJournal⟩
  have hrest := hlast.rest
  exact (congrArg Site.store hrest).symm

/-- One digit in the place of another leaves the same files behind, also if
it is typed while the submission is under way. -/
theorem Site.journal_hides_typed_digit :
    let pad := Pad.new (.str "A1") ⟨"http://localhost:5000", .int 5, {}⟩ 1
    let opened := Journal.openAt {} "journal" (.int 1700000000)
    let s : Site := ⟨pad, none, opened.1.value.toOption, opened.2,
      .int 1700000000, fun k => .int (1700000001 + k)⟩
    let typed (value : String) : Incoming :=
      ⟨"POST", "/api/cell", [], Text.utf8
        (Text.ofString ("\x7b\"index\":0,\"value\":\"" ++ value ++ "\"\x7d"))⟩
    let typing (value : String) : Step Incoming :=
      ⟨typed value, 0, [], .status 200⟩
    let submitting (value : String) : Step Incoming :=
      ⟨⟨"POST", "/api/submit", [], []⟩, 5, [typing value], .status 200⟩
    Step.AllAgree (Incoming.Alike s.waiting.isSome s.pad.cellCount)
        [typing "1", submitting "2"] [typing "7", submitting "8"]
      ∧ (service.runSteps 0 s [typing "1", submitting "2"]).2.2.store
        = (service.runSteps 0 s [typing "7", submitting "8"]).2.2.store := by
  intro pad opened s typed typing submitting
  have halike {value value' : String}
      (htarget : (typed value).target false = .route .cell)
      (hnamed : ((typed value).cell? 1).map (fun named =>
        (named.1, (valueText named.2).any CodePoint.isDigit)) = some (0, true))
      (hnamed' : ((typed value').cell? 1).map (fun named =>
        (named.1, (valueText named.2).any CodePoint.isDigit))
      = some (0, true)) :
      Incoming.Alike s.waiting.isSome s.pad.cellCount (typed value)
        (typed value') := by
    obtain ⟨⟨i, fields⟩, hcell, hpair⟩ := Option.map_eq_some_iff.mp hnamed
    obtain ⟨⟨i', fields'⟩, hcell', hpair'⟩ := Option.map_eq_some_iff.mp hnamed'
    obtain ⟨rfl, hdigit⟩ := Prod.mk.inj hpair
    obtain ⟨rfl, hdigit'⟩ := Prod.mk.inj hpair'
    exact .typed htarget hcell hcell' (hdigit.trans hdigit'.symm)
  have hagree : Step.AllAgree (Incoming.Alike s.waiting.isSome s.pad.cellCount)
      [typing "1", submitting "2"] [typing "7", submitting "8"] := by
    refine .cons (.step (halike (by decide +kernel) (by decide +kernel)
      (by decide +kernel)) .nil)
      (.cons (.step (.same _) (.cons (.step ?_ .nil) .nil))
        .nil)
    exact halike (by decide +kernel) (by decide +kernel) (by decide +kernel)
  exact ⟨hagree, (journal_hides_pin s 0 hagree).1⟩

end Web

end DevicePairing
