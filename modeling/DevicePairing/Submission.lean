/-
What a submission of a PIN comes to.

An outcome is what the client reports: a result, the status of the
response if there was one, a reason in a word or two, and the time it
took. A report has the same fields as they are handed over from outside,
where nothing is known about their kinds; every outcome is a report.
-/
import DevicePairing.Fault
import DevicePairing.Json.Display

namespace DevicePairing

/-- Whether a submission paired the device. -/
inductive Result where
  | success
  | failure
  deriving DecidableEq, Repr

/-- The word for a result. -/
def Result.name : Result → String
  | .success => "success"
  | .failure => "failure"

/-- The result that a value names. -/
def Result.ofJson (v : Json) : Except Fault Result :=
  match v with
  | .str t =>
    if t = Text.ofString "success" then .ok .success
    else if t = Text.ofString "failure" then .ok .failure
    else .error ⟨.value, v.display ++ " is not a valid SubmissionResult"⟩
  | _ => .error ⟨.value, v.display ++ " is not a valid SubmissionResult"⟩

/-- The outcome of one submission. -/
structure Outcome where
  result : Result
  status : Option Int
  reason : Text
  elapsed : Binary64
  deriving DecidableEq, Repr

/-- Whether the submission paired the device. -/
def Outcome.isOk (o : Outcome) : Bool := o.result == .success

/-- An outcome as it is handed over from outside. -/
structure Report where
  result : Result
  status : Json
  reason : Json
  elapsed : Json

/-- An outcome as a report. -/
def Outcome.report (o : Outcome) : Report where
  result := o.result
  status := match o.status with | some n => .int n | none => .null
  reason := .str o.reason
  elapsed := .float o.elapsed

namespace Report

/-- Whether the submission paired the device. -/
def isOk (r : Report) : Bool := r.result == .success

/-- A duration to one decimal place. A whole number is exact already. -/
def roundedElapsed (v : Json) : Except Fault Json :=
  match v with
  | .float x => .ok (.float x.roundTenths)
  | .int n => .ok (.int n)
  | .bool b => .ok (.int (if b then 1 else 0))
  | v =>
    .error ⟨.type, "type " ++ Text.ofString v.kindName
      ++ " doesn't define __round__ method"⟩

/-- A report as an object, with the duration given. -/
def fieldsWith (r : Report) (elapsed : Json) : List (Text × Json) :=
  [("result", .str r.result.name), ("status_code", r.status),
    ("reason", r.reason),
    ("elapsed_ms", elapsed)]

/-- A report as an object, its duration to one decimal place. -/
def summary (r : Report) : Except Fault (List (Text × Json)) :=
  (roundedElapsed r.elapsed).map r.fieldsWith

end Report

/-- An outcome as an object, its duration to one decimal place. -/
def Outcome.fields (o : Outcome) : List (Text × Json) :=
  o.report.fieldsWith (.float o.elapsed.roundTenths)

end DevicePairing
