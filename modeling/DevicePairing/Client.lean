/-
The client of a pairing service.

A PIN is submitted by one GET request that carries the device and the
PIN in its query. Any status from 200 to 299 means the device is paired;
another status, a timeout and a request that fails in any other way are
outcomes as well. What is no fault of the request is not for the client
to judge and is handed on.
-/
import DevicePairing.Elapsed
import DevicePairing.Exchange
import DevicePairing.Submission
import DevicePairing.Url.Prepared

namespace DevicePairing

/-- What a client finds where it runs: the spelling of host names, and, if
there is a netrc file, the user and the password that it has for the host
of an authority. -/
structure Environment where
  names : Url.HostNames := .ofTable []
  netrc : Option (Text → Option (Text × Text)) := some fun _ => none

/-- A client: the address of the service, without slashes at its end, the
timeout for a request, and what it finds where it runs. -/
structure Client where
  baseUrl : Text
  timeout : Json
  environment : Environment := {}

/-- What a client is asked to submit. -/
structure Submission where
  uniqueId : Json
  pin : Json

/-- What is sent of a submission. -/
def Submission.parameters (s : Submission) : List (String × Json) :=
  [("uniqueid", s.uniqueId), ("pin", s.pin)]

namespace Client

/-- The address of the service unless another is given. -/
def defaultUrl : String := "http://localhost:5000"

/-- The timeout in seconds unless another is given. -/
def defaultTimeout : Binary64 := .ofInt 5

/-- A client for an address, which must be a text. -/
def ofAddress (address timeout : Json) (environment : Environment := {}) :
    Except Fault Client :=
  match address with
  | .str url =>
    .ok {
      baseUrl := Text.dropTailWhile (· == .char '/') url
      timeout
      environment }
  | v =>
    .error ⟨.attribute, "'" ++ Text.ofString v.kindName
      ++ "' object has no attribute 'rstrip'"⟩

/-- The address that PINs are sent to. -/
def endpoint (c : Client) : Text := c.baseUrl ++ "/submit-pin"

/-- The URL of a submission as it goes on the wire. -/
def pinUrl (c : Client) (s : Submission) : Except Fault Text :=
  Url.prepare c.environment.names none c.endpoint s.parameters

/-- The user and the password that the netrc file has for the host of the
service. The address is read for that host if there is such a file. -/
def listed (c : Client) : Except Fault (Option (Text × Text)) :=
  match c.environment.netrc with
  | none => .ok none
  | some login? => do
    Url.checkAuthority c.endpoint
    .ok (login? (Url.Reference.ofText c.endpoint).authority)

/-- The URL that is asked for on behalf of a submission. -/
def prepared (c : Client) (s : Submission) : Except Fault Text := do
  let given ← c.listed
  Url.prepare c.environment.names given c.endpoint s.parameters

/-- The fault of a URL that nobody can be asked for. -/
def unserved (url : Text) : Fault :=
  ⟨.unservedScheme, "No connection adapters were found for " ++ url.quoted⟩

/-- The request for a submission. -/
def request (c : Client) (s : Submission) : Except Fault Request := do
  let url ← c.prepared s
  if Url.isServed url then .ok ⟨url, c.timeout⟩
  else .error (unserved url)

/-- An outcome whose time runs from one reading of the clock to another. -/
def outcome (result : Result) (status : Option Int) (reason : Text)
    (t₀ now : Int) :
    Except Fault Outcome :=
  (elapsedMs t₀ now).map fun elapsed => ⟨result, status, reason, elapsed⟩

/-- What a status comes to. -/
def finishStatus (t₀ now : Int) (code : Int) : Logged (Except Fault Outcome) :=
  if 200 ≤ code ∧ code < 300 then
    ⟨outcome .success (some code) "ok" t₀ now, []⟩
  else
    ⟨outcome .failure (some code) ("http " ++ Text.ofInt code) t₀ now,
      ["[Pairing] Rejected with status " ++ Text.ofInt code]⟩

/-- What a fault comes to. -/
def finishFault (c : Client) (t₀ now : Int) (f : Fault) :
    Logged (Except Fault Outcome) :=
  match f.family with
  | .timeout =>
    ⟨outcome .failure none "timeout" t₀ now,
      ["[Pairing] Timed out after " ++ c.timeout.text ++ "s: " ++ c.endpoint]⟩
  | .request =>
    ⟨outcome .failure none "connection error" t₀ now,
      ["[Pairing] Request failed: " ++ f.message]⟩
  | .other | .interrupt => ⟨.error f, []⟩

/-- The end of a submission that was sent at the reading `t₀`. -/
def finish (c : Client) (now t₀ : Int) :
    Ending → Logged (Except Fault Outcome)
  | .status code => finishStatus t₀ now code
  | .fault f => c.finishFault t₀ now f

/-- The beginning of a submission. -/
def start (c : Client) (now : Int) (s : Submission) :
    Logged (Opening Outcome Int) :=
  match c.request s with
  | .ok request => ⟨.waiting request now, []⟩
  | .error f =>
    let ⟨outcome, log⟩ := c.finishFault now now f
    ⟨.done outcome, log⟩

/-- A client as a service; it keeps no state. -/
def service (c : Client) : Service Unit Submission Outcome Int where
  start now s _ := (c.start now s, ())
  finish now t₀ ending _ := (c.finish now t₀ ending, ())

end Client

end DevicePairing
