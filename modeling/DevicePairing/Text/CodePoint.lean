/-
Text as this library carries it: a list of code points.

Most text here is made of characters. JSON is the exception: an escape
may name one half of a surrogate pair, and the halves may stand alone.
Such text is still text (it can be shown, compared, escaped again), it
only has no UTF-8 form. So a code point is a character or a surrogate,
and the functions that need characters alone say so.
-/
namespace DevicePairing

/-- A character, or one of the 2048 surrogates `U+D800` to `U+DFFF`. -/
inductive CodePoint where
  | char (c : Char)
  | surrogate (n : Fin 2048)
  deriving DecidableEq, Repr

/-- Text that may hold surrogates standing alone. -/
abbrev Text := List CodePoint

namespace CodePoint

/-- The number of a code point. -/
def code : CodePoint → Nat
  | .char c => c.toNat
  | .surrogate n => 0xD800 + n.val

/-- The code point of a number, if there is one. -/
def ofCode? (n : Nat) : Option CodePoint :=
  if h : n.isValidChar then some (.char (Char.ofNatAux n h))
  else if h : 0xD800 ≤ n ∧ n < 0xD800 + 2048 then
    some (.surrogate ⟨n - 0xD800, by omega⟩)
  else none

/-- The code point of a number, NUL where there is none. -/
def ofCode (n : Nat) : CodePoint := (ofCode? n).getD (.char '\x00')

/-- One of the ten digits `0` to `9`. -/
def isDigit : CodePoint → Bool
  | .char c => c.isDigit
  | .surrogate _ => false

/-- The value of a hexadecimal digit, in either case. -/
def hexDigit? : CodePoint → Option Nat
  | .char c =>
    let n := c.toNat
    if 48 ≤ n ∧ n ≤ 57 then some (n - 48)
    else if 97 ≤ n ∧ n ≤ 102 then some (n - 87)
    else if 65 ≤ n ∧ n ≤ 70 then some (n - 55)
    else none
  | .surrogate _ => none

/-- ASCII lower case; every other code point stays. -/
def toLower : CodePoint → CodePoint
  | .char c => .char c.toLower
  | .surrogate n => .surrogate n

/-- ASCII upper case; every other code point stays. -/
def toUpper : CodePoint → CodePoint
  | .char c => .char c.toUpper
  | .surrogate n => .surrogate n

end CodePoint

namespace Text

/-- Whether a number lies in one of some closed ranges. -/
def inRanges (ranges : List (Nat × Nat)) (n : Nat) : Bool :=
  ranges.any fun r => r.1 ≤ n && n ≤ r.2

/-- The text of a string. -/
def ofString (s : String) : Text := s.toList.map .char

instance : Coe String Text := ⟨ofString⟩

instance : HAppend String Text Text := ⟨fun s t => ofString s ++ t⟩

instance : HAppend Text String Text := ⟨fun t s => t ++ ofString s⟩

/-- The text of an integer: decimal digits after an optional minus sign. -/
def ofInt (n : Int) : Text := ofString (toString n)

/-- The text of a natural number: its decimal digits. -/
def ofNat (n : Nat) : Text := (Nat.toDigits 10 n).map .char

/-- What stands before the first code point `sep`, and what follows it if it
occurs. -/
def cut (sep : CodePoint) : Text → Text × Option Text
  | [] => ([], none)
  | c :: t =>
    if c = sep then ([], some t)
    else
      let (before, after) := cut sep t
      (c :: before, after)

/-- The pieces between the occurrences of `sep`: one more than there are
occurrences. -/
def pieces (sep : CodePoint) : Text → List Text
  | [] => [[]]
  | c :: t =>
    if c = sep then [] :: pieces sep t
    else
      match pieces sep t with
      | [] => [[c]]
      | p :: ps => (c :: p) :: ps

/-- The texts one after the other, with `sep` between neighbours. -/
def join (sep : Text) : List Text → Text
  | [] => []
  | [t] => t
  | t :: ts => t ++ sep ++ join sep ts

/-- The text without the longest tail that satisfies `p`. -/
def dropTailWhile (p : CodePoint → Bool) (t : Text) : Text :=
  (t.reverse.dropWhile p).reverse

/-- Whether a text begins with the characters of a string. -/
def startsWith (t : Text) (s : String) : Bool := (ofString s).isPrefixOf t

/-- The text with `new` for every occurrence of `old`, behind the first
`skip` code points, which go. -/
def replaceFrom (old new : Text) : Nat → Text → Text
  | _, [] => []
  | skip + 1, _ :: t => replaceFrom old new skip t
  | 0, c :: t =>
    if old.isPrefixOf (c :: t) then
      new ++ replaceFrom old new (old.length - 1) t
    else c :: replaceFrom old new 0 t

/-- The text with `new` for every occurrence of `old`, which is not empty.
Occurrences are looked for from the left, each behind the one before. -/
def replace (old new t : Text) : Text := replaceFrom old new 0 t

/-- The last occurrence of `sep` splits a text in two. -/
def cutLast (sep : CodePoint) (t : Text) : Option (Text × Text) :=
  match cut sep t.reverse with
  | (_, none) => none
  | (after, some before) => some (before.reverse, after.reverse)

end Text

end DevicePairing
