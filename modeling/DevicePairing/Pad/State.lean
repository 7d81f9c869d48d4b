/-
The state of a PIN pad, and what may be seen of it.

A pad has a row of cells, one of which has the focus, and knows whether a
submission is under way and how the last one ended. Two counters run
beside them: one counts the inputs to cells, so that a response can be
told to come too late, and one counts every change that a snapshot can
show, so that snapshots can be told apart and put in order.
-/
import DevicePairing.Client
import DevicePairing.Pad.Cell

namespace DevicePairing

/-- How the last submission ended, until a cell is edited. -/
inductive Verdict where
  | success
  | error
  deriving DecidableEq, Repr

/-- What the pad is about. -/
inductive Phase where
  | idle
  | ready
  | submitting
  | success
  | error
  deriving DecidableEq, Repr

/-- The word for a phase. -/
def Phase.name : Phase → String
  | .idle => "idle"
  | .ready => "ready"
  | .submitting => "submitting"
  | .success => "success"
  | .error => "error"

/-- A PIN pad. -/
structure Pad where
  uniqueId : Json
  client : Client
  cells : List Cell
  focus : Nat := 0
  selection : Nat × Nat := (0, 0)
  successVisible : Bool := false
  errorVisible : Bool := false
  lastOutcome : Option Outcome := none
  generation : Nat := 0
  version : Nat := 0
  inFlight : Bool := false
  verdict : Option Verdict := none

/-- Everything a page may show of a pad. -/
structure Snapshot where
  version : Nat
  cells : List Cell
  focus : Nat
  selection : Nat × Nat
  pinLength : Nat
  submitEnabled : Bool
  submitting : Bool
  successVisible : Bool
  errorVisible : Bool
  phase : Phase
  deriving DecidableEq, Repr

namespace Pad

-- ============================================================ making

/-- The number of cells unless another is given. -/
def defaultCellCount : Nat := 4

/-- The number of cells that a value asks for: a whole number from one on. -/
def cellCount? (v : Json) : Except Fault Nat :=
  let tooFew : Except Fault Nat := .error ⟨.value, "cell_count must be >= 1"⟩
  match v with
  | .int n => if n < 1 then tooFew else .ok n.toNat
  | .bool b => if b then .ok 1 else tooFew
  | .float x =>
    if x.isBelow 1 then tooFew
    else .error ⟨.type, "'float' object cannot be interpreted as an integer"⟩
  | v =>
    .error ⟨.type, "'<' not supported between instances of '"
      ++ Text.ofString v.kindName ++ "' and 'int'"⟩

/-- A new pad with `n` empty cells. -/
def new (uniqueId : Json) (client : Client) (n : Nat) : Pad where
  uniqueId
  client
  cells := List.replicate n none

/-- A new pad with as many cells as a value asks for. -/
def open? (uniqueId : Json) (client : Client) (cellCount : Json) :
    Except Fault Pad :=
  (cellCount? cellCount).map (new uniqueId client)

-- ============================================================ seeing

/-- The number of cells. -/
def cellCount (p : Pad) : Nat := p.cells.length

/-- The digits entered, in the order of the cells. -/
def candidate (p : Pad) : Text := p.cells.flatMap Cell.text

/-- Whether every cell holds a digit. -/
def submitEnabled (p : Pad) : Bool := p.cells.all Option.isSome

/-- What the pad is about. -/
def phase (p : Pad) : Phase :=
  if p.inFlight then .submitting
  else
    match p.verdict with
    | some .success => .success
    | some .error => .error
    | none => if p.submitEnabled then .ready else .idle

/-- What a page may show. -/
def snapshot (p : Pad) : Snapshot where
  version := p.version
  cells := p.cells
  focus := p.focus
  selection := p.selection
  pinLength := p.candidate.length
  submitEnabled := p.submitEnabled
  submitting := p.inFlight
  successVisible := p.successVisible
  errorVisible := p.errorVisible
  phase := p.phase

end Pad

/-- A snapshot as an object. -/
def Snapshot.fields (s : Snapshot) : List (Text × Json) :=
  [("version", .int s.version),
    ("cells", .arr (s.cells.map fun c => .str c.text)),
    ("focus", .int s.focus),
    ("selection", .arr [.int s.selection.1, .int s.selection.2]),
    ("pin_length", .int s.pinLength),
    ("submit_enabled", .bool s.submitEnabled),
    ("submitting", .bool s.submitting),
    ("success_visible", .bool s.successVisible),
    ("error_visible", .bool s.errorVisible),
    ("state", .str s.phase.name)]

end DevicePairing
