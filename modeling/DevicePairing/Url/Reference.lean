/-
References as they are read loosely.

This reading takes any text. Controls and blanks in front do not count,
nor does a tab or the end of a line anywhere; a scheme goes; two slashes
then announce an authority; and the path ends at a question mark or a
hash.
-/
import DevicePairing.Url.Scheme

namespace DevicePairing.Url

/-- What a loose reading finds. -/
structure Reference where
  authority : Text
  path : Text
  deriving DecidableEq, Repr

namespace Reference

/-- Whether a character ends a path. -/
def endsPath (p : CodePoint) : Bool := p == .char '?' || p == .char '#'

/-- Whether a character ends an authority. -/
def endsAuthority (p : CodePoint) : Bool := p == .char '/' || endsPath p

/-- The reading of a text. -/
def ofText (t : Text) : Reference :=
  let t := (t.dropWhile fun p => p.code ≤ 0x20).filter fun p =>
    !("\t\r\n".toList.map CodePoint.char).contains p
  match ((takeScheme "+.-" t).map (·.2)).getD t with
  | .char '/' :: .char '/' :: r =>
    ⟨r.takeWhile (!endsAuthority ·),
      (r.dropWhile (!endsAuthority ·)).takeWhile (!endsPath ·)⟩
  | r => ⟨[], r.takeWhile (!endsPath ·)⟩

end Reference

end DevicePairing.Url
