/-
What may happen to a pad.

An input stores the first digit of what was typed and moves on to the
next cell; it also calls off whatever submission is under way. A focus
event selects a cell. A submission goes out only from a full pad and only
one at a time. Its response counts if no cell was touched meanwhile;
otherwise it is treated as failed, so that a pad never shows success for
digits that were not sent.
-/
import DevicePairing.Pad.State

namespace DevicePairing

namespace Pad

/-- An event. An observation changes nothing. -/
inductive Event where
  | input (index raw : Json)
  | focus (index : Json)
  | submit
  | observe

/-- What an event gives back. -/
inductive Reaction where
  | stored (cell : Cell)
  | selected (range : Nat × Nat)
  | submitted (outcome : Option Outcome)
  | observed

-- ============================================================= cells

/-- The cell that a value names: a whole number below the number of cells. -/
def index? (p : Pad) (v : Json) : Except Fault Nat :=
  let refused : Except Fault Nat :=
    .error ⟨.value, "cell index must be in [0, " ++ Text.ofNat p.cellCount
      ++ "), got " ++ v.display⟩
  match v with
  | .int n => if 0 ≤ n ∧ n < p.cellCount then .ok n.toNat else refused
  | _ => refused

/-- How many digits a cell holds. -/
def contentLength (p : Pad) (i : Nat) : Nat :=
  match p.cells[i]? with
  | some (some _) => 1
  | _ => 0

/-- The pad with the focus on a cell and all of its content selected. -/
def select (p : Pad) (i : Nat) : Pad :=
  { p with focus := i, selection := (0, p.contentLength i) }

/-- The pad with the focus on a cell and the caret behind its content. -/
def placeCaret (p : Pad) (i : Nat) : Pad :=
  { p with focus := i, selection := (p.contentLength i, p.contentLength i) }

/-- The pad after a cell took a new value. -/
def store (p : Pad) (i : Nat) (cell : Cell) : Pad :=
  let q := { p with
    cells := p.cells.set i cell
    generation := p.generation + 1
    version := p.version + 1
    verdict := none }
  if cell.isSome && i + 1 < p.cellCount then q.select (i + 1)
  else q.placeCaret i

/-- An input from outside. -/
def onInput (p : Pad) (index raw : Json) : Except Fault (Cell × Pad) := do
  let i ← p.index? index
  let cell ← Cell.ofInput raw
  .ok (cell, p.store i cell)

/-- A focus event from outside. -/
def onFocus (p : Pad) (index : Json) : Except Fault Pad := do
  let i ← p.index? index
  .ok ({ p with version := p.version + 1 }.select i)

-- ======================================================== submissions

/-- What is kept of a submission until its response: the count of inputs
when it went out, and the reading of the clock. -/
structure Flight where
  generation : Nat
  started : Int
  deriving DecidableEq, Repr

/-- The pad when a submission goes out. -/
def depart (p : Pad) : Pad :=
  { p with inFlight := true, version := p.version + 1 }

/-- The pad when a submission is over. -/
def land (p : Pad) : Pad :=
  { p with inFlight := false, version := p.version + 1 }

/-- An outcome as the pad takes it: abandoned if a cell was touched. -/
def judged (isStale : Bool) (o : Outcome) : Outcome :=
  if isStale then { o with result := .failure, reason := "abandoned" } else o

/-- The pad showing an outcome. -/
def announce (p : Pad) (isStale : Bool) (o : Outcome) : Pad :=
  { p with
    successVisible := o.isOk
    errorVisible := !o.isOk
    lastOutcome := some o
    verdict :=
      if isStale then p.verdict
      else some (if o.isOk then .success else .error) }

/-- The end of a submission that went out with `generation` inputs made. -/
def conclude (p : Pad) (generation : Nat) :
    Except Fault Outcome → Logged (Except Fault (Option Outcome)) × Pad
  | .error f =>
    match f.family with
    | .interrupt => (⟨.error f, []⟩, p)
    | _ => (⟨.error f, []⟩, p.land)
  | .ok o =>
    let isStale := generation != p.generation
    let o := judged isStale o
    let stale : List Text :=
      if isStale then
        ["[Pin] Inputs edited during submission, treating response as failed"]
      else []
    (⟨.ok (some o), stale ++ ["[Pin] Pairing " ++ Text.ofString o.result.name
      ++ " (" ++ o.reason ++ ")"]⟩,
      p.land.announce isStale o)

/-- The line that a submission begins with. -/
def departureLine (p : Pad) : Text :=
  "[Pin] Submitting PIN for " ++ p.uniqueId.text

/-- Why no submission can go out now, in the words of the log: another is
under way, or the pad is not full. -/
def refusal? (p : Pad) : Option Text :=
  if p.inFlight then some "[Pin] Submission already in flight, ignoring"
  else if p.candidate.length != p.cellCount then
    some ("[Pin] Submit blocked: " ++ Text.ofNat p.candidate.length ++ "/"
      ++ Text.ofNat p.cellCount ++ " digits entered")
  else none

/-- What the client is asked to submit. -/
def submission (p : Pad) : Submission := ⟨p.uniqueId, .str p.candidate⟩

/-- The beginning of a submission. -/
def startSubmit (p : Pad) (now : Int) :
    Logged (Opening (Option Outcome) Flight) × Pad :=
  match p.refusal? with
  | some line => (⟨.done (.ok none), [line]⟩, p)
  | none =>
    let ⟨opening, log⟩ := p.client.start now p.submission
    let log := p.departureLine :: log
    match opening with
    | .waiting request started =>
      (⟨.waiting request ⟨p.generation, started⟩, log⟩, p.depart)
    | .done result =>
      let (⟨result, log'⟩, p') := p.depart.conclude p.generation result
      (⟨.done result, log ++ log'⟩, p')

/-- The end of a submission whose request was sent. -/
def finishSubmit (p : Pad) (now : Int) (flight : Flight) (ending : Ending) :
    Logged (Except Fault (Option Outcome)) × Pad :=
  let ⟨result, log⟩ := p.client.finish now flight.started ending
  let (⟨result, log'⟩, p) := p.conclude flight.generation result
  (⟨result, log ++ log'⟩, p)

-- ============================================================ service

/-- The beginning of an event. -/
def start (now : Int) (event : Event) (p : Pad) :
    Logged (Opening Reaction Flight) × Pad :=
  match event with
  | .input index raw =>
    match p.onInput index raw with
    | .ok (cell, q) => (⟨.done (.ok (.stored cell)), []⟩, q)
    | .error f => (⟨.done (.error f), []⟩, p)
  | .focus index =>
    match p.onFocus index with
    | .ok q => (⟨.done (.ok (.selected q.selection)), []⟩, q)
    | .error f => (⟨.done (.error f), []⟩, p)
  | .submit =>
    match p.startSubmit now with
    | (⟨.done result, log⟩, q) => (⟨.done (result.map .submitted), log⟩, q)
    | (⟨.waiting request flight, log⟩, q) => (⟨.waiting request flight, log⟩, q)
  | .observe => (⟨.done (.ok .observed), []⟩, p)

/-- The end of an event that waited for a response. -/
def finish (now : Int) (flight : Flight) (ending : Ending) (p : Pad) :
    Logged (Except Fault Reaction) × Pad :=
  let (⟨result, log⟩, q) := p.finishSubmit now flight ending
  (⟨result.map .submitted, log⟩, q)

/-- The pad as a service. -/
def service : Service Pad Event Reaction Flight := ⟨start, finish⟩

end Pad

end DevicePairing
