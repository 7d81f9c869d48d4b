/-
Query strings.

A query is written as names and values in form encoding, joined by `=`
and `&`. It is read leniently: empty pieces do not count, a piece without
`=` is a name with an empty value, and bytes that are no text stay
escaped. Of several values of one name the first counts.
-/
import DevicePairing.Json.Display
import DevicePairing.Url.Percent

namespace DevicePairing.Url

-- ========================================================== writing

/-- The texts under which a value that is no list of its own is sent. -/
def innerTexts : Json → List Text
  | .arr items => items.map Json.text
  | .obj fields => fields.map (·.1)
  | v => [v.text]

/-- The texts under which a parameter is sent: a null is left out, a list
repeats the name, anything else is its text. -/
def parameterTexts : Json → List Text
  | .null => []
  | .arr items =>
    (items.filter fun | .null => false | _ => true).flatMap innerTexts
  | .obj fields => fields.map (·.1)
  | v => [v.text]

/-- One parameter in form encoding. -/
def encodeParameter (name : String) (v : Json) : Except Fault (List Text) :=
  (parameterTexts v).mapM fun t => do
    let value ← encodeForm t
    .ok (name ++ ("=" ++ value))

/-- Several parameters in form encoding. -/
def encodeParameters (parameters : List (String × Json)) :
    Except Fault Text := do
  let pieces ← parameters.mapM fun (name, v) => encodeParameter name v
  .ok (Text.join "&" pieces.flatten)

-- ========================================================== reading

/-- A name or value of a query, decoded. -/
def decodeForm (t : Text) : Text :=
  lenientText (unescape
    (Text.utf8 (t.map fun p => if p = .char '+' then .char ' ' else p)))

/-- The name and the value of one piece. -/
def decodePair (piece : Text) : Text × Text :=
  match Text.cut (.char '=') piece with
  | (name, none) => (decodeForm name, [])
  | (name, some value) => (decodeForm name, decodeForm value)

/-- The names and values of a query. -/
def decodeQuery (query : Text) : List (Text × Text) :=
  ((Text.pieces (.char '&') query).filter (!·.isEmpty)).map decodePair

/-- The first value of a name. -/
def firstValue? (name : String) (pairs : List (Text × Text)) : Option Text :=
  (pairs.find? (·.1 = Text.ofString name)).map (·.2)

/-- The names that occur, each once, in the order in which they first do. -/
def names (pairs : List (Text × Text)) : List Text :=
  (pairs.map (·.1)).foldl
    (fun seen name => if seen.contains name then seen else seen ++ [name]) []

end DevicePairing.Url
