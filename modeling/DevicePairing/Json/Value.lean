/-
Values of a JSON document.

Whole numbers stay whole and unbounded; every other number is a value of
the 64-bit format. The fields of an object keep the order in which their
names first appeared, and a name that comes again replaces the value.
-/
import DevicePairing.Number.Binary
import DevicePairing.Text.CodePoint

namespace DevicePairing

/-- A JSON value. -/
inductive Json where
  | null
  | bool (b : Bool)
  | int (n : Int)
  | float (x : Binary64)
  | str (t : Text)
  | arr (items : List Json)
  | obj (fields : List (Text × Json))
  deriving Repr, Inhabited

namespace Json

/-- An object's fields with one more; a name that is there already keeps
its place and takes the new value. -/
def setField (name : Text) (value : Json) :
    List (Text × Json) → List (Text × Json)
  | [] => [(name, value)]
  | (n, v) :: fields =>
    if n = name then (n, value) :: fields
    else (n, v) :: setField name value fields

/-- The object of a sequence of fields. -/
def ofFields (fields : List (Text × Json)) : Json :=
  .obj (fields.foldl (fun acc (name, value) => setField name value acc) [])

/-- The value of a field among fields. -/
def lookup (name : Text) (fields : List (Text × Json)) : Option Json :=
  (fields.find? (·.1 = name)).map (·.2)

/-- The value of a field of an object. -/
def field? (v : Json) (name : Text) : Option Json :=
  match v with
  | .obj fields => lookup name fields
  | _ => none

/-- Whether a value counts as something: not null, false, zero or empty. -/
def isSomething : Json → Bool
  | .null => false
  | .bool b => b
  | .int n => n != 0
  | .float x => !x.isZero
  | .str t => !t.isEmpty
  | .arr items => !items.isEmpty
  | .obj fields => !fields.isEmpty

/-- A whole number or a truth value, as a whole number. -/
def wholeNumber? : Json → Option Int
  | .int n => some n
  | .bool b => some (if b then 1 else 0)
  | _ => none

/-- The word for the kind of a value, as messages use it. -/
def kindName : Json → String
  | .null => "NoneType"
  | .bool _ => "bool"
  | .int _ => "int"
  | .float _ => "float"
  | .str _ => "str"
  | .arr _ => "list"
  | .obj _ => "dict"

end Json

end DevicePairing
