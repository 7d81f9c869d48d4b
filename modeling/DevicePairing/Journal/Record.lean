/-
One record of the journal, in its two forms.

As a line, a record is a JSON object and can hold whatever was reported.
As a row of a table, every column has a type, and a value that does not
fit its column is refused; columns are filled from left to right, so the
first that does not fit decides the fault.
-/
import DevicePairing.Json.Writer
import DevicePairing.Submission

namespace DevicePairing

/-- One attempt to pair a device. -/
structure Attempt where
  id : Int
  uniqueId : Json
  result : Result
  status : Json
  reason : Json
  elapsed : Binary64
  time : Json

/-- Whether a number fits a signed word of some bits. -/
def fitsBits (bits : Nat) (n : Int) : Bool :=
  -(pow2 (bits - 1) : Int) ≤ n && n < pow2 (bits - 1)

/-- A row of the table. -/
structure Row where
  id : Int
  uniqueId : Option Text
  result : Text
  status : Option Int
  reason : Option Text
  elapsed : Binary64
  time : Binary64
  deriving DecidableEq

-- ============================================================ numbers

namespace Json

/-- A value as a number of the 64-bit format. -/
def toBinary64 (v : Json) : Except Fault Binary64 :=
  let ofInt := fun n : Int =>
    match Binary64.ofInt n with
    | .finite s m e => .ok (.finite s m e)
    | _ => .error ⟨.overflow, "int too large to convert to float"⟩
  match v with
  | .float x => .ok x
  | .int n => ofInt n
  | .bool b => ofInt (if b then 1 else 0)
  | .str t =>
    match Numeral.fraction? t with
    | some x => .ok x
    | none => .error ⟨.value, "could not convert string to float: " ++ t.quoted⟩
  | v =>
    .error ⟨.type, "float() argument must be a string or a real number, not '"
      ++ Text.ofString v.kindName ++ "'"⟩

end Json

-- =============================================================== lines

namespace Attempt

/-- The attempt with this number, reported at a reading of the wall clock. -/
def ofReport (id : Int) (uniqueId : Json) (r : Report) (time : Json) :
    Except Fault Attempt := do
  let elapsed ← r.elapsed.toBinary64
  .ok { id, uniqueId, result := r.result, status := r.status,
        reason := r.reason,
        elapsed := elapsed.roundTenths, time }

/-- An attempt as an object. -/
def fields (a : Attempt) : List (Text × Json) :=
  [("id", .int a.id), ("unique_id", a.uniqueId), ("result", .str a.result.name),
    ("status_code", a.status), ("reason", a.reason),
    ("elapsed_ms", .float a.elapsed), ("ts", a.time)]

/-- An attempt as a line of the journal, with its end. -/
def line (a : Attempt) : Text := (Json.obj a.fields).write .line ++ "\n"

/-- The line of an attempt, or the fault of a number in it that has too
many digits. -/
def line? (a : Attempt) : Except Fault Text :=
  if (Json.obj a.fields).isWritable then .ok a.line
  else .error ⟨.value, Numeral.tooLongToWrite⟩

-- ================================================================ rows

/-- The fault of a number beyond 64 bits. -/
def beyondWords : Fault :=
  ⟨.overflow, "Python int too large to convert to C long"⟩

/-- A value for a column of text. -/
def textColumn (v : Json) : Except Fault (Option Text) :=
  match v with
  | .null => .ok none
  | .str t =>
    match t.loneSurrogate? with
    | none => .ok (some t)
    | some f => .error f.fault
  | v =>
    .error ⟨.columnType, "Expected bytes, got a '" ++ Text.ofString v.kindName
      ++ "' object"⟩

/-- The fault of a value that is no number of 16 bits. -/
def notConvertible (v : Json) : Fault :=
  ⟨.columnValue, "Could not convert " ++ v.display ++ " with type "
    ++ Text.ofString v.kindName ++ ": tried to convert to int16"⟩

/-- A value for the column of statuses, which has 16 bits. A fraction
loses what follows its point. -/
def statusColumn (v : Json) : Except Fault (Option Int) :=
  match v with
  | .null => .ok none
  | .int n =>
    if !fitsBits 64 n then .error beyondWords
    else if fitsBits 16 n then .ok (some n)
    else .error ⟨.columnValue, "Value " ++ Text.ofInt n
      ++ " too large to fit in C integer type"⟩
  | .bool _ => .error ⟨.columnType, "Expected integer, got bool"⟩
  | .float x =>
    match x.truncate? with
    | some n =>
      if fitsBits 16 n then .ok (some n) else .error (notConvertible v)
    | none => .error (notConvertible v)
  | v => .error (notConvertible v)

/-- A value for the column of times, which has 64-bit numbers. A whole
number must be one of those that are exact as such up to it. -/
def timeColumn (v : Json) : Except Fault Binary64 :=
  match v with
  | .int n =>
    if !fitsBits 64 n then .error beyondWords
    else if n.natAbs ≤ pow2 53 then v.toBinary64
    else
      .error ⟨.columnValue, "Integer value " ++ Text.ofInt n
        ++ " is outside of the range exactly representable by a "
        ++ Text.ofString "IEEE 754 double precision value"⟩
  | v => v.toBinary64

/-- An attempt as a row of the table. -/
def row (a : Attempt) : Except Fault Row := do
  if !fitsBits 64 a.id then .error beyondWords
  let uniqueId ← textColumn a.uniqueId
  let status ← statusColumn a.status
  let reason ← textColumn a.reason
  let time ← timeColumn a.time
  .ok { id := a.id, uniqueId, result := a.result.name, status, reason,
        elapsed := a.elapsed.toBinary32, time }

end Attempt

/-- A row as an object. -/
def Row.fields (r : Row) : List (Text × Json) :=
  let text := fun t : Option Text =>
    match t with | some t => Json.str t | none => .null
  [("id", .int r.id), ("unique_id", text r.uniqueId), ("result", .str r.result),
    ("status_code", match r.status with | some n => .int n | none => .null),
    ("reason", text r.reason), ("elapsed_ms", .float r.elapsed),
    ("ts", .float r.time)]

end DevicePairing
