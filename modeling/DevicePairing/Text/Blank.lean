/-
Blank characters.

Two sets are in use. A line of a file is blank when it holds nothing but
white space in the wide sense: the separators of the character database
and the ASCII controls from tab to carriage return and from U+001C to
U+001F. Around a numeral the four controls U+001C to U+001F do not count.
-/
import DevicePairing.Text.CodePoint

namespace DevicePairing

namespace CodePoint

/-- White space in the wide sense. -/
def isBlank (p : CodePoint) : Bool :=
  let n := p.code
  (0x09 ≤ n && n ≤ 0x0D) || (0x1C ≤ n && n ≤ 0x20) || n == 0x85 || n == 0xA0
    || n == 0x1680 || (0x2000 ≤ n && n ≤ 0x200A) || n == 0x2028 || n == 0x2029
    || n == 0x202F || n == 0x205F || n == 0x3000

/-- White space that may surround a numeral. -/
def isNumeralBlank (p : CodePoint) : Bool :=
  p.isBlank && !(0x1C ≤ p.code && p.code ≤ 0x1F)

end CodePoint

namespace Text

/-- Whether a text holds nothing but white space. -/
def isBlank (t : Text) : Bool := t.all CodePoint.isBlank

/-- The text from its first character that is not white space. -/
def trimLeft (t : Text) : Text := t.dropWhile CodePoint.isBlank

end Text

end DevicePairing
