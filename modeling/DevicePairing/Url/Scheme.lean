/-
The scheme of a URL: a letter, then letters, digits and certain signs, up
to a colon. Which signs count depends on the reading.
-/
import DevicePairing.Text.CodePoint

namespace DevicePairing.Url

/-- A letter of ASCII. -/
def isLetter (p : CodePoint) : Bool :=
  match p with
  | .char c => c.isAlpha
  | .surrogate _ => false

/-- A letter, a digit or one of the signs that a scheme may hold. -/
def isSchemeChar (signs : String) (p : CodePoint) : Bool :=
  match p with
  | .char c => c.isAlphanum || signs.toList.contains c
  | .surrogate _ => false

/-- The scheme that a text begins with, and what follows its colon. -/
def takeScheme (signs : String) (t : Text) : Option (Text × Text) :=
  match t with
  | p :: _ =>
    if isLetter p then
      match t.dropWhile (isSchemeChar signs) with
      | .char ':' :: r => some (t.takeWhile (isSchemeChar signs), r)
      | _ => none
    else none
  | [] => none

end DevicePairing.Url
