/-
Requests to the pad's own server, and its responses.
-/
import DevicePairing.Json.Reader
import DevicePairing.Json.Writer
import DevicePairing.Url.Query
import DevicePairing.Url.Reference

namespace DevicePairing.Web

/-- A request as it comes in. -/
structure Incoming where
  method : Text
  path : Text
  query : Text
  body : Bytes

/-- What a response carries. -/
inductive Body where
  | empty
  | page (t : Text)
  | plain (t : Text)
  | document (v : Json)

/-- A response: its status, the kind of its content if it says so, its
body, and the methods that it says are allowed. -/
structure Response where
  status : Nat
  contentType : Option String := none
  body : Body := .empty
  allow : List String := []

/-- The text of a body. A document is compact, with a line feed behind it. -/
def Body.text : Body → Text
  | .empty => []
  | .page t => t
  | .plain t => t
  | .document v => v.write .compact ++ "\n"

namespace Response

/-- A response with a page. -/
def page (t : Text) : Response :=
  ⟨200, some "text/html; charset=utf-8", .page t, []⟩

/-- A response with plain text. -/
def plain (status : Nat) (t : Text) : Response :=
  ⟨status, some "text/plain; charset=utf-8", .plain t, []⟩

/-- A response with a document. -/
def document (status : Nat) (v : Json) : Response :=
  ⟨status, some "application/json", .document v, []⟩

/-- A response that says nothing but its status. -/
def bare (status : Nat) : Response := { status }

/-- A response without its body. -/
def withoutBody (r : Response) : Response := { r with body := .empty }

end Response

namespace Incoming

/-- Whether a response goes without its body. Routes do not look at the
case of a method, but this does. -/
def wantsNoBody (r : Incoming) : Bool := r.method = Text.ofString "HEAD"

/-- The path that a request asks for. One that begins with two slashes
names a host first, which goes; two parties on the way take one away each. -/
def askedPath (r : Incoming) : Text :=
  let once := (Url.Reference.ofText r.path).path
  Url.lenientText (Url.unescape (Url.Reference.ofText once).path.utf8)

/-- The names and values of the query. -/
def parameters (r : Incoming) : List (Text × Text) := Url.decodeQuery r.query

/-- How deep the document of a request may be nested. -/
def documentDepth : Nat := 977

/-- The document of a request, whatever it says about its content; nothing
where the body is none. Too deep a document is a fault. -/
def document? (r : Incoming) : Except Fault (Option Json) :=
  match documentText? r.body with
  | none => .ok none
  | some t =>
    match Json.read documentDepth t with
    | .ok v => .ok (some v)
    | .error (.tooDeep inList) =>
      .error ⟨.nesting, (Json.ReadFault.tooDeep inList).message t⟩
    | .error _ => .ok none

end Incoming

end DevicePairing.Web
