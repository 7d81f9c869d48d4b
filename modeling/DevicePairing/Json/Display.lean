/-
Values as messages and cells show them.

A value on its own shows a text bare; inside lists and objects, and
wherever a message has to tell a text from a number, it is quoted.
-/
import DevicePairing.Json.Value
import DevicePairing.Number.Decimal
import DevicePairing.Text.Quoted

namespace DevicePairing.Json

/-- The words for null and the truth values. -/
def truthText (b : Bool) : Text := if b then "True" else "False"

mutual

/-- A value in full, texts quoted. -/
def display : Json → Text
  | .null => "None"
  | .bool b => truthText b
  | .int n => Text.ofInt n
  | .float x => x.text
  | .str t => t.quoted
  | .arr items => "[" ++ Text.join ", " (displayItems items) ++ "]"
  | .obj fields => "\x7b" ++ Text.join ", " (displayFields fields) ++ "\x7d"

/-- The items of a list, each in full. -/
def displayItems : List Json → List Text
  | [] => []
  | v :: vs => display v :: displayItems vs

/-- The fields of an object, each in full. -/
def displayFields : List (Text × Json) → List Text
  | [] => []
  | (name, v) :: fields =>
    (name.quoted ++ ": " ++ display v) :: displayFields fields

end

/-- A value as text: a text is itself. -/
def text : Json → Text
  | .str t => t
  | v => display v

end DevicePairing.Json
