/-
Text in units of 16 and of 32 bits, and the recognition of a document's
encoding from its first bytes.

A document begins with an ASCII character, so the places of the NUL
bytes among the first four tell the width and the order of its units; a
byte order mark tells them outright. In 16-bit units a surrogate that is
not half of a pair stands for itself.
-/
import DevicePairing.Text.Utf8

namespace DevicePairing

/-- The numbers of successive 16-bit units; nothing if a byte is left over. -/
def units16 (big : Bool) : Bytes → Option (List Nat)
  | [] => some []
  | [_] => none
  | a :: b :: r =>
    (units16 big r).map
      ((if big then a.toNat * 256 + b.toNat else b.toNat * 256 + a.toNat) :: ·)

/-- The numbers of successive 32-bit units; nothing if bytes are left over. -/
def units32 (big : Bool) : Bytes → Option (List Nat)
  | [] => some []
  | a :: b :: c :: d :: r =>
    let n :=
      if big then ((a.toNat * 256 + b.toNat) * 256 + c.toNat) * 256 + d.toNat
      else ((d.toNat * 256 + c.toNat) * 256 + b.toNat) * 256 + a.toNat
    (units32 big r).map (n :: ·)
  | _ => none

/-- Whether a number is the first half of a surrogate pair. -/
def isHighSurrogate (n : Nat) : Bool := 0xD800 ≤ n && n < 0xDC00

/-- Whether a number is the second half of a surrogate pair. -/
def isLowSurrogate (n : Nat) : Bool := 0xDC00 ≤ n && n < 0xE000

/-- The number that a surrogate pair stands for. -/
def joinPair (high low : Nat) : Nat :=
  0x10000 + (high - 0xD800) * 0x400 + (low - 0xDC00)

/-- The text of 16-bit units. -/
def textOfUnits16 : List Nat → Text
  | [] => []
  | [a] => [.ofCode a]
  | a :: b :: r =>
    if isHighSurrogate a && isLowSurrogate b then
      .ofCode (joinPair a b) :: textOfUnits16 r
    else .ofCode a :: textOfUnits16 (b :: r)

/-- The text of 32-bit units, each the number of a code point. -/
def textOfUnits32 : List Nat → Option Text
  | [] => some []
  | a :: r => do
    let p ← CodePoint.ofCode? a
    let t ← textOfUnits32 r
    pure (p :: t)

/-- How a document is written. -/
inductive Encoding where
  | utf8
  | utf16 (big : Bool)
  | utf32 (big : Bool)
  deriving DecidableEq, Repr

namespace Encoding

/-- The encoding of a document, and its bytes without a byte order mark. -/
def detect : Bytes → Encoding × Bytes
  | 0x00 :: 0x00 :: 0xFE :: 0xFF :: r => (.utf32 true, r)
  | 0xFF :: 0xFE :: 0x00 :: 0x00 :: r => (.utf32 false, r)
  | 0xFE :: 0xFF :: r => (.utf16 true, r)
  | 0xFF :: 0xFE :: r => (.utf16 false, r)
  | 0xEF :: 0xBB :: 0xBF :: r => (.utf8, r)
  | a :: b :: c :: d :: r =>
    let bytes := a :: b :: c :: d :: r
    if a = 0 then (if b = 0 then (.utf32 true, bytes) else (.utf16 true, bytes))
    else if b = 0 then
      (if c = 0 && d = 0 then (.utf32 false, bytes) else (.utf16 false, bytes))
    else (.utf8, bytes)
  | [a, b] =>
    if a = 0 then (.utf16 true, [a, b])
    else if b = 0 then (.utf16 false, [a, b])
    else (.utf8, [a, b])
  | bytes => (.utf8, bytes)

/-- The text of a document's bytes, surrogates standing alone included. -/
def decode : Encoding → Bytes → Option Text
  | .utf8, bytes => (decodeUtf8 true bytes).toOption
  | .utf16 big, bytes => (units16 big bytes).map textOfUnits16
  | .utf32 big, bytes => (units32 big bytes).bind textOfUnits32

end Encoding

/-- The text of a document in whichever encoding its first bytes show. -/
def documentText? (bytes : Bytes) : Option Text :=
  let (encoding, body) := Encoding.detect bytes
  encoding.decode body

end DevicePairing
