/-
JSON documents as text, in ASCII alone.

Two layouts are in use: a journal line keeps the fields in their order
and sets a blank after every comma and colon; an answer sorts the fields
by name and has no blanks. Escapes are the same in both. A number that is
not finite is written as a word that the reader takes back. An integer
with too many digits is not written at all.
-/
import DevicePairing.Json.Value
import DevicePairing.Number.Decimal
import DevicePairing.Number.Numeral
import DevicePairing.Text.Quoted

namespace DevicePairing.Json

-- ========================================================== strings

/-- A 16-bit unit as an escape. -/
def unitEscape (n : Nat) : Text := "\\u" ++ (hexText 4 n).map CodePoint.char

/-- A code point inside a string: printable ASCII stands for itself. -/
def escape (p : CodePoint) : Text :=
  let n := p.code
  if n = 0x22 then "\\\""
  else if n = 0x5C then "\\\\"
  else if n = 0x0A then "\\n"
  else if n = 0x0D then "\\r"
  else if n = 0x09 then "\\t"
  else if n = 0x0C then "\\f"
  else if n = 0x08 then "\\b"
  else if 0x20 ≤ n ∧ n < 0x7F then [p]
  else if n < 0x10000 then unitEscape n
  else unitEscape (0xD800 + (n - 0x10000) / 0x400)
    ++ unitEscape (0xDC00 + (n - 0x10000) % 0x400)

/-- A string with its quotes. -/
def stringText (t : Text) : Text := "\"" ++ t.flatMap escape ++ "\""

/-- A number of the 64-bit format. -/
def numberText : Binary64 → Text
  | .nan => "NaN"
  | .infinite s => if s then "-Infinity" else "Infinity"
  | x => x.text

-- ========================================================= documents

/-- Where blanks go and whether fields are sorted. -/
structure Layout where
  comma : Text
  colon : Text
  sorted : Bool

/-- The layout of a journal line. -/
def Layout.line : Layout := ⟨", ", ": ", false⟩

/-- The layout of an answer. -/
def Layout.compact : Layout := ⟨",", ":", true⟩

/-- The order of names: by code points, a proper beginning first. -/
def nameLe : Text → Text → Bool
  | [], _ => true
  | _ :: _, [] => false
  | a :: s, b :: t => a.code < b.code || (a.code == b.code && nameLe s t)

mutual

/-- Whether no integer in a value has too many digits to be written. -/
def isWritable : Json → Bool
  | .int n => (Numeral.integerText? n).isSome
  | .arr items => itemsWritable items
  | .obj fields => fieldsWritable fields
  | _ => true

/-- Whether all items of a list can be written. -/
def itemsWritable : List Json → Bool
  | [] => true
  | v :: vs => isWritable v && itemsWritable vs

/-- Whether all fields of an object can be written. -/
def fieldsWritable : List (Text × Json) → Bool
  | [] => true
  | (_, v) :: fields => isWritable v && fieldsWritable fields

end

mutual

/-- A value as a document. -/
def write (l : Layout) : Json → Text
  | .null => "null"
  | .bool b => if b then "true" else "false"
  | .int n => Text.ofInt n
  | .float x => numberText x
  | .str t => stringText t
  | .arr items => "[" ++ Text.join l.comma (writeItems l items) ++ "]"
  | .obj fields =>
    let written := writeFields l fields
    let written :=
      if l.sorted then written.mergeSort (fun a b => nameLe a.1 b.1)
      else written
    "\x7b" ++ Text.join l.comma (written.map (·.2)) ++ "\x7d"

/-- The items of a list. -/
def writeItems (l : Layout) : List Json → List Text
  | [] => []
  | v :: vs => write l v :: writeItems l vs

/-- The fields of an object, each beside its name. -/
def writeFields (l : Layout) : List (Text × Json) → List (Text × Text)
  | [] => []
  | (name, v) :: fields =>
    (name, stringText name ++ l.colon ++ write l v) :: writeFields l fields

end

end DevicePairing.Json
