/-
One cell of the pad: empty, or one decimal digit.
-/
import DevicePairing.Fault
import DevicePairing.Json.Display

namespace DevicePairing

/-- A decimal digit. -/
abbrev Digit := Fin 10

namespace Digit

/-- The digit as a character. -/
def char (d : Digit) : Char := Char.ofNat (48 + d.val)

/-- The digit that a code point is, if it is one of `0` to `9`. -/
def ofCodePoint? : CodePoint → Option Digit
  | .char c => if c.isDigit then some (Fin.ofNat 10 (c.toNat - 48)) else none
  | .surrogate _ => none

end Digit

/-- A cell: empty, or one digit. -/
abbrev Cell := Option Digit

namespace Cell

/-- What a cell shows. -/
def text : Cell → Text
  | some d => [.char d.char]
  | none => []

/-- The cell after a text was typed: its first digit. -/
def ofText (t : Text) : Cell := t.findSome? Digit.ofCodePoint?

/-- The cell after a value was handed over from outside. A value that
counts as nothing clears the cell; anything else must be a text. -/
def ofInput (raw : Json) : Except Fault Cell :=
  if !raw.isSomething then .ok none
  else
    match raw with
    | .str t => .ok (ofText t)
    | v =>
      .error ⟨.type, "expected string or bytes-like object, got '"
        ++ Text.ofString v.kindName ++ "'"⟩

end Cell

end DevicePairing
