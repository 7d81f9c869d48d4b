/-
Binary floating point on exact integers.

A finite value is a sign, a mantissa and an exponent of two, so every
operation here is done on naturals first and rounded once. All rounding
goes through `Format.round`: to the nearest value of the format, a tie
to the even mantissa, nothing beyond the greatest exponent. The two
formats in use are the 64-bit one, in which durations and clock readings
are kept, and the 32-bit one, which is the width of a journal column.
-/
namespace DevicePairing

-- ======================================================= rounding

/-- A power of two. -/
def pow2 (n : Nat) : Nat := Nat.pow 2 n

/-- A power of ten. -/
def pow10 (n : Nat) : Nat := Nat.pow 10 n

/-- `num / den` rounded to the nearest natural, a tie to the even one. -/
def roundDiv (num den : Nat) : Nat :=
  let q := num / den
  let r := num % den
  if 2 * r < den then q
  else if den < 2 * r then q + 1
  else if q % 2 = 0 then q else q + 1

/-- The largest `k` with `2 ^ k ≤ num / den`, for positive `num` and `den`. -/
def floorLog2 (num den : Nat) : Int :=
  let k : Int := (num.log2 : Int) - (den.log2 : Int)
  if den * pow2 k.toNat ≤ num * pow2 (-k).toNat then k else k - 1

/-- The shape of a binary format: bits of the mantissa, and the least and
greatest exponent of its unit. -/
structure Format where
  precision : Nat
  minExponent : Int
  maxExponent : Int

namespace Format

/-- The 64-bit format. -/
def binary64 : Format := ⟨53, -1074, 971⟩

/-- The 32-bit format. -/
def binary32 : Format := ⟨24, -149, 104⟩

/-- The mantissa and exponent nearest to `num / den`; nothing where that
lies beyond the greatest finite value. -/
def round (f : Format) (num den : Nat) : Option (Nat × Int) :=
  if num = 0 then some (0, f.minExponent)
  else
    let e := max f.minExponent (floorLog2 num den - (f.precision - 1 : Int))
    let m := roundDiv (num * pow2 (-e).toNat) (den * pow2 e.toNat)
    let (m, e) :=
      if m = pow2 f.precision then (pow2 (f.precision - 1), e + 1) else (m, e)
    if f.maxExponent < e then none else some (m, e)

end Format

-- ========================================================= values

/-- A value of the 64-bit format. The mantissa of a finite value has all
53 bits, or its exponent is the least one. -/
inductive Binary64 where
  | finite (negative : Bool) (mantissa : Nat) (exponent : Int)
  | infinite (negative : Bool)
  | nan
  deriving DecidableEq, Repr

namespace Binary64

/-- The value nearest to `± num / den`, infinite beyond the greatest one. -/
def ofRatio (negative : Bool) (num den : Nat) : Binary64 :=
  match Format.binary64.round num den with
  | some (m, e) => .finite negative m e
  | none => .infinite negative

/-- The value nearest to `± mantissa * 2 ^ exponent`. -/
def ofScaled (negative : Bool) (mantissa : Nat) (exponent : Int) : Binary64 :=
  ofRatio negative (mantissa * pow2 exponent.toNat) (pow2 (-exponent).toNat)

/-- The value nearest to an integer. -/
def ofInt (n : Int) : Binary64 := ofRatio (decide (n < 0)) n.natAbs 1

/-- The value nearest to `± digits * 10 ^ exponent`. Beyond four hundred
places on either side nothing has to be computed: the answer is infinite
or zero whatever the digits are. -/
def ofDecimal (negative : Bool) (digits : Nat) (exponent : Int) : Binary64 :=
  if digits = 0 then ofRatio negative 0 1
  else if 400 < exponent then .infinite negative
  else if exponent < -(400 + (digits.log2 : Int)) then ofRatio negative 0 1
  else ofRatio negative (digits * pow10 exponent.toNat)
    (pow10 (-exponent).toNat)

/-- The value zero. -/
def zero : Binary64 := ofRatio false 0 1

/-- A finite value as sign, numerator and denominator. -/
def ratio? : Binary64 → Option (Bool × Nat × Nat)
  | .finite s m e => some (s, m * pow2 e.toNat, pow2 (-e).toNat)
  | _ => none

/-- Whether the value is finite. -/
def isFinite : Binary64 → Bool
  | .finite .. => true
  | _ => false

/-- Whether the value is zero, of either sign. -/
def isZero : Binary64 → Bool
  | .finite _ m _ => m == 0
  | _ => false

/-- The integer part of a finite value, toward zero. -/
def truncate? (x : Binary64) : Option Int :=
  x.ratio?.map fun (s, num, den) =>
    if s then -((num / den : Nat) : Int) else ((num / den : Nat) : Int)

/-- The greatest integer not above a finite value. -/
def floor? (x : Binary64) : Option Int :=
  x.ratio?.map fun (s, num, den) =>
    Int.fdiv (if s then -(num : Int) else (num : Int)) den

/-- Whether the value lies below an integer; NaN lies below none. -/
def isBelow (x : Binary64) (n : Int) : Bool :=
  match x with
  | .finite .. =>
    match x.ratio? with
    | some (s, num, den) =>
      decide ((if s then -(num : Int) else (num : Int)) < n * den)
    | none => false
  | .infinite s => s
  | .nan => false

/-- Whether the value equals an integer exactly. -/
def equalsInt (x : Binary64) (n : Int) : Bool :=
  match x.ratio? with
  | some (s, num, den) =>
    decide ((if s then -(num : Int) else (num : Int)) = n * den)
  | none => false

/-- Equality of numbers: the two zeros are one, NaN equals nothing. -/
def sameNumber (x y : Binary64) : Bool :=
  match x, y with
  | .nan, _ => false
  | x, y => (x.isZero && y.isZero) || x == y

/-- The sum, rounded once. -/
def add : Binary64 → Binary64 → Binary64
  | .nan, _ => .nan
  | _, .nan => .nan
  | .infinite s, .infinite t => if s = t then .infinite s else .nan
  | .infinite s, _ => .infinite s
  | _, .infinite t => .infinite t
  | .finite s m e, .finite t n f =>
    let g := min e f
    let a : Int := (if s then -1 else 1) * (m * pow2 (e - g).toNat : Nat)
    let b : Int := (if t then -1 else 1) * (n * pow2 (f - g).toNat : Nat)
    let c := a + b
    if c = 0 then ofRatio (s && t) 0 1 else ofScaled (decide (c < 0)) c.natAbs g

/-- The value rounded to one decimal place, a tie to the even digit, and
then to the format again. The sign stays, also on zero. -/
def roundTenths : Binary64 → Binary64
  | .finite s m e =>
    ofRatio s (roundDiv (10 * (m * pow2 e.toNat)) (pow2 (-e).toNat)) 10
  | x => x

/-- The value as a 32-bit column holds it, written in the wide format. -/
def toBinary32 : Binary64 → Binary64
  | .finite s m e =>
    match Format.binary32.round (m * pow2 e.toNat) (pow2 (-e).toNat) with
    | some (m', e') => ofScaled s m' e'
    | none => .infinite s
  | x => x

end Binary64

end DevicePairing
