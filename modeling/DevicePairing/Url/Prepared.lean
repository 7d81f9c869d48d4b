/-
The URL that goes on the wire.

A text that is clearly no web URL is taken as it is. Any other is cut
into its parts, which must include a scheme and a host with a name on the
wire, gets the parameters added to its query, and is put together again in
its final spelling. Either way there must then be credentials that can be
sent, or none.
-/
import DevicePairing.Url.Credentials
import DevicePairing.Url.Parts
import DevicePairing.Url.Query

namespace DevicePairing.Url

/-- The fault of a URL that cannot be used. -/
def invalid (message : Text) : Fault := ⟨.invalidUrl, message⟩

/-- Whether a text begins with a string, in any case. -/
def beginsWith (t : Text) (s : String) : Bool :=
  Text.startsWith (t.map CodePoint.toLower) s

/-- Whether a text is taken for a URL of some other kind than the web's. -/
def isForeign (t : Text) : Bool :=
  t.contains (.char ':') && !beginsWith t "http"

/-- The text before and after a part that may be missing. -/
def withMark (mark : String) (part : Option Text) : Text :=
  match part with
  | none => []
  | some t => if t.isEmpty then [] else mark ++ t

/-- The authority of a URL put together. -/
def Parts.authority (p : Parts) : Text :=
  let user : Text := match p.user with | some u => u ++ "@" | none => []
  let port : Text :=
    match p.port with | some (n + 1) => ":" ++ Text.ofNat (n + 1) | _ => []
  user ++ p.host ++ port

/-- A URL put together from a scheme and the other parts. -/
def Parts.text (scheme : Text) (p : Parts) : Text :=
  let path := if p.path.startsWith "/" then p.path else "/" ++ p.path
  scheme ++ "://" ++ p.authority ++ path ++ withMark "?" p.query
    ++ withMark "#" p.fragment

/-- Parameters joined to a query. -/
def addToQuery (query : Option Text) (parameters : Text) : Option Text :=
  match query with
  | none => some parameters
  | some q =>
    if parameters.isEmpty then some q
    else if q.isEmpty then some parameters
    else some (q ++ "&" ++ parameters)

/-- The fault of a host that has no name on the wire. -/
def invalidLabel : Fault := invalid "URL has an invalid label."

/-- A host as it goes on the wire. -/
def wireHost? (names : HostNames) (host : Text) : Except Fault Text :=
  if isAscii host then
    if host.startsWith "*" || host.startsWith "." then .error invalidLabel
    else .ok host
  else
    match names.other host with
    | some name => .ok name
    | none => .error invalidLabel

/-- A web URL with parameters, in its final spelling. -/
def prepareWeb (names : HostNames) (url : Text)
    (parameters : List (String × Json)) : Except Fault Text := do
  let parts ← Parts.ofText names url
  match parts.scheme with
  | none =>
    .error ⟨.missingScheme, "Invalid URL " ++ url.quoted
      ++ ": No scheme supplied. Perhaps you meant https://" ++ url ++ "?"⟩
  | some scheme =>
    if parts.host.isEmpty then
      .error (invalid ("Invalid URL " ++ url.quoted ++ ": No host supplied"))
    else
      let host ← wireHost? names parts.host
      let encoded ← encodeParameters parameters
      let query := addToQuery parts.query encoded
      encodeWhole ({ parts with host, query }.text scheme)

/-- The URL of a request for `url` with parameters; a user and a password
may be given. -/
def prepare (names : HostNames) (given : Option (Text × Text)) (url : Text)
    (parameters : List (String × Json)) : Except Fault Text := do
  let url := url.trimLeft
  let prepared ←
    (if isForeign url then .ok url else prepareWeb names url parameters)
  checkCredentials given prepared
  .ok prepared

/-- Whether requests to a URL can be sent at all. -/
def isServed (url : Text) : Bool :=
  beginsWith url "http://" || beginsWith url "https://"

end DevicePairing.Url
