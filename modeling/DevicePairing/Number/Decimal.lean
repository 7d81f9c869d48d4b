/-
The decimal text of a binary value.

Which digits: the fewest that read back to the value, and of those the
nearest to it. How they are laid out: positionally while the leading
digit stands for `10^-4` up to `10^15`, with at least one place after
the point, and otherwise as a mantissa and a signed exponent of at least
two digits.
-/
import DevicePairing.Number.Binary
import DevicePairing.Text.CodePoint

namespace DevicePairing

/-- `digits * 10 ^ exponent`. -/
structure Decimal where
  digits : Nat
  exponent : Int
  deriving DecidableEq, Repr

namespace Binary64

/-- Whether a decimal reads back to the value, signs aside. -/
def readsBack (x : Binary64) (d : Decimal) : Bool :=
  match x with
  | .finite s m e => ofDecimal s d.digits d.exponent == .finite s m e
  | _ => false

/-- The least `k` with `num / den < 10 ^ k`, for a positive quotient. The
binary logarithm gives it up to two steps. -/
def decimalScale (num den : Nat) : Int :=
  let guess : Int := Int.fdiv (floorLog2 num den * 30103) 100000
  let below (k : Int) : Bool :=
    decide (num * pow10 (-k).toNat < den * pow10 k.toNat)
  if below guess then guess
  else if below (guess + 1) then guess + 1
  else guess + 2

/-- The decimal with `n` digits (of a value below `10 ^ scale`) that reads
back, if there is one: of the two neighbours on that grid the nearer, a
tie to the even one. -/
def withDigits? (x : Binary64) (num den : Nat) (scale : Int) (n : Nat) :
    Option Decimal :=
  let e := scale - n
  let top := num * pow10 (-e).toNat
  let unit := den * pow10 e.toNat
  let nearest := roundDiv top unit
  let low := top / unit
  let other := if nearest = low then low + 1 else low
  if x.readsBack ⟨nearest, e⟩ then some ⟨nearest, e⟩
  else if x.readsBack ⟨other, e⟩ then some ⟨other, e⟩
  else none

/-- The shortest decimal that reads back, searched from one digit to
seventeen; the exact value stands behind the search. -/
def shortest (x : Binary64) : Decimal :=
  match x with
  | .finite _ m e =>
    if m = 0 then ⟨0, 0⟩
    else
      let num := m * pow2 e.toNat
      let den := pow2 (-e).toNat
      let scale := decimalScale num den
      ((List.range 17).findSome? fun i =>
        x.withDigits? num den scale (i + 1)).getD
        ⟨m * pow2 e.toNat * Nat.pow 5 (-e).toNat, -(-e).toNat⟩
  | _ => ⟨0, 0⟩

end Binary64

namespace Decimal

/-- Digits and exponent without the zeros at the end of the digits. -/
def strip : List Char → Int → List Char × Int
  | ds, e =>
    let zeros := (ds.reverse.takeWhile (· = '0')).length
    if zeros < ds.length then (ds.take (ds.length - zeros), e + zeros)
    else (['0'], 0)

/-- An exponent: its sign and at least two digits. -/
def exponentText (e : Int) : List Char :=
  let ds := Nat.toDigits 10 e.natAbs
  (if e < 0 then '-' else '+') :: (if ds.length < 2 then '0' :: ds else ds)

/-- The layout of digits whose point stands after the first `point` of them. -/
def layout (ds : List Char) (point : Int) : List Char :=
  if -4 < point ∧ point ≤ 16 then
    if point ≤ 0 then '0' :: '.' :: (List.replicate (-point).toNat '0' ++ ds)
    else
      let n := point.toNat
      if ds.length ≤ n then
        ds ++ List.replicate (n - ds.length) '0' ++ ['.', '0']
      else ds.take n ++ '.' :: ds.drop n
  else
    match ds with
    | [] => []
    | [d] => d :: 'e' :: exponentText (point - 1)
    | d :: r => d :: '.' :: r ++ 'e' :: exponentText (point - 1)

/-- The text of a decimal. -/
def chars (d : Decimal) : List Char :=
  if d.digits = 0 then ['0', '.', '0']
  else
    let (ds, e) := strip (Nat.toDigits 10 d.digits) d.exponent
    layout ds (ds.length + e)

end Decimal

namespace Binary64

/-- The text of a value: its shortest decimal, or one of the three words. -/
def text : Binary64 → Text
  | .nan => "nan"
  | .infinite s => if s then "-inf" else "inf"
  | .finite s m e =>
    (if s then [CodePoint.char '-'] else [])
      ++ ((finite s m e).shortest.chars.map .char)

end Binary64

end DevicePairing
