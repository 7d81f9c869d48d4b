/-
Which requests the server knows.

A route is known by its exact path. Slashes in front of a path count as
one. A path that would be known if each run of slashes were one, and an
empty path, are answered with a pointer to the path that was meant; a
known path under a method it does not take is answered with the methods
that it takes.
-/
import DevicePairing.Web.Message

namespace DevicePairing.Web

/-- What a request may be for. -/
inductive Route where
  | page
  | status
  | cell
  | focus
  | submit
  | submitPin
  | unpair
  | asset
  deriving DecidableEq, Repr

namespace Route

/-- The methods that a route takes, in alphabetical order. -/
def methods : Route → List String
  | .cell | .focus | .submit => ["OPTIONS", "POST"]
  | _ => ["GET", "HEAD", "OPTIONS"]

/-- Whether a route takes a method. -/
def takes (r : Route) (method : Text) : Bool :=
  r.methods.any fun m => Text.ofString m = method

/-- The paths of the pad. -/
def padPaths : List (String × Route) :=
  [("/", .page), ("/api/status", .status), ("/api/cell", .cell),
    ("/api/focus", .focus),
    ("/api/submit", .submit)]

/-- The paths of the pairing endpoint. -/
def pairingPaths : List (String × Route) :=
  [("/submit-pin", .submitPin), ("/unpair", .unpair)]

/-- Whether a path is one of an asset: a name that begins with no slash
and goes on in the same line, below the directory of assets. -/
def isAssetPath (path : Text) : Bool :=
  path.startsWith "/static/"
    && match path.drop 8 with
    | [] => false
    | p :: r => p != .char '/' && !r.contains (.char '\n')

/-- The route of a path. The pairing endpoint may be there or not. -/
def ofPath? (pairing : Bool) (path : Text) : Option Route :=
  let known := if pairing then padPaths ++ pairingPaths else padPaths
  match known.find? fun (p, _) => Text.ofString p = path with
  | some (_, r) => some r
  | none => if isAssetPath path then some .asset else none

end Route

/-- A path with each run of slashes as one. -/
def mergeSlashes : Text → Text
  | [] => []
  | p :: t =>
    if p = .char '/' ∧ t.head? = some (.char '/') then mergeSlashes t
    else p :: mergeSlashes t

/-- A path with one slash in front. -/
def rooted (path : Text) : Text := .char '/' :: path.dropWhile (· == .char '/')

/-- Where a request goes. -/
inductive Target where
  | route (r : Route)
  | methods (r : Route)
  | otherMethod (r : Route)
  | otherPath
  | nowhere
  deriving DecidableEq, Repr

/-- Where a method and a path with one slash in front go. -/
def Target.ofRooted (pairing : Bool) (method path : Text) : Target :=
  match Route.ofPath? pairing path with
  | some r =>
    if !r.takes method then .otherMethod r
    else if method = Text.ofString "OPTIONS" then .methods r
    else .route r
  | none =>
    match Route.ofPath? pairing (mergeSlashes path) with
    | some r => if r.takes method then .otherPath else .otherMethod r
    | none => .nowhere

/-- Where a method and a path go. -/
def Target.of (pairing : Bool) (method path : Text) : Target :=
  if path.isEmpty then if Route.page.takes method then .otherPath else .nowhere
  else Target.ofRooted pairing method (rooted path)

namespace Incoming

/-- Where a request goes. -/
def target (r : Incoming) (pairing : Bool) : Target :=
  Target.of pairing (r.method.map CodePoint.toUpper) r.askedPath

end Incoming

end DevicePairing.Web
