/-
Quoted text.

A text in quotes is shown between apostrophes, or between double quotes
if it holds an apostrophe and no double quote. Within them a backslash,
the quote in use and every code point that is not printable are written
as escapes, the shortest of `\xNN`, `\uNNNN` and `\UNNNNNNNN` that fits.
-/
import DevicePairing.Text.Printable

namespace DevicePairing

/-- A hexadecimal digit, in lower case. -/
def hexChar (n : Nat) : Char :=
  if n < 10 then Char.ofNat (48 + n) else Char.ofNat (87 + n)

/-- The last `width` hexadecimal digits of a number, in lower case. -/
def hexText : Nat → Nat → List Char
  | 0, _ => []
  | width + 1, n => hexText width (n / 16) ++ [hexChar (n % 16)]

namespace Text

/-- A code point as an escape. -/
def escapedPoint (p : CodePoint) : Text :=
  let n := p.code
  if n < 0x100 then "\\x" ++ (hexText 2 n).map CodePoint.char
  else if n < 0x10000 then "\\u" ++ (hexText 4 n).map CodePoint.char
  else "\\U" ++ (hexText 8 n).map CodePoint.char

/-- A code point between quotes. -/
def quotedPoint (quote : Char) (p : CodePoint) : Text :=
  if p = .char quote ∨ p = .char '\\' then [.char '\\', p]
  else if p = .char '\n' then "\\n"
  else if p = .char '\r' then "\\r"
  else if p = .char '\t' then "\\t"
  else if isPrintable p then [p]
  else escapedPoint p

/-- The quote around a text: an apostrophe where it can be. -/
def quoteFor (t : Text) : Char :=
  if t.contains (.char '\'') && !t.contains (.char '"') then '"' else '\''

/-- A text in quotes. -/
def quoted (t : Text) : Text :=
  let q := quoteFor t
  [CodePoint.char q] ++ t.flatMap (quotedPoint q) ++ [CodePoint.char q]

end Text

end DevicePairing
