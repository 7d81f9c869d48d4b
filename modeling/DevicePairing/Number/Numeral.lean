/-
Numerals: numbers as people and other programs write them.

A numeral may stand between blanks, its digits may come from any script,
and single underscores may part them. The first step therefore puts
a text into plain characters, after which only ASCII matters. An integer
numeral with too many digits is refused before anything behind it is
looked at, so that reading stays cheap.
-/
import DevicePairing.Number.Binary
import DevicePairing.Text.Blank
import DevicePairing.Text.DecimalDigit
import DevicePairing.Text.Quoted

namespace DevicePairing.Numeral

-- ==================================================== plain characters

/-- A code point of a numeral in plain characters: foreign digits become
`0` to `9`, foreign blanks a space, and all else no character of any
numeral. -/
def plainChar (p : CodePoint) : Char :=
  if p.code < 127 then Char.ofNat p.code
  else if p.isNumeralBlank then ' '
  else
    match Text.decimalValue? p with
    | some d => Char.ofNat (48 + d)
    | none => '?'

/-- A space or one of the controls from tab to carriage return. -/
def isSpace (c : Char) : Bool := c == ' ' || ('\t' ≤ c && c ≤ '\r')

/-- The plain characters of a numeral from its first non-blank one. -/
def plain (t : Text) : List Char := (t.map plainChar).dropWhile isSpace

/-- The characters without the blanks at their end. -/
def trimRight (cs : List Char) : List Char :=
  (cs.reverse.dropWhile isSpace).reverse

/-- An optional sign and what follows it. -/
def takeSign : List Char → Bool × List Char
  | '-' :: cs => (true, cs)
  | '+' :: cs => (false, cs)
  | cs => (false, cs)

/-- The number that decimal digits denote, the first one highest. -/
def valueOf (ds : List Char) : Nat :=
  ds.foldl (fun n c => 10 * n + (c.toNat - 48)) 0

-- ========================================================== integers

/-- The greatest number of digits an integer is read or written with. -/
def digitLimit : Nat := 4300

/-- Why a text is no integer numeral. -/
inductive IntegerFault where
  | malformed (t : Text)
  | tooLong (digits : Nat)
  deriving DecidableEq, Repr

/-- The words for an integer that is too long to be read. -/
def tooLongMessage (digits : Nat) : Text :=
  "Exceeds the limit (4300 digits) for integer string conversion: value has "
    ++ Text.ofNat digits
    ++ " digits; use sys.set_int_max_str_digits() to increase the limit"

/-- The words for an integer that is too long to be written. -/
def tooLongToWrite : Text :=
  "Exceeds the limit (4300 digits) for integer string conversion; "
    ++ Text.ofString "use sys.set_int_max_str_digits() to increase the limit"

/-- The words for a fault; a malformed text is quoted up to 200 characters. -/
def IntegerFault.message : IntegerFault → Text
  | .malformed t =>
    "invalid literal for int() with base 10: " ++ t.quoted.take 200
  | .tooLong digits => tooLongMessage digits

/-- Whether every piece between underscores holds something. -/
def groupsFilled : Bool → List Char → Bool
  | filled, [] => filled
  | filled, c :: cs =>
    if c = '_' then filled && groupsFilled false cs else groupsFilled true cs

/-- The integer a text denotes. -/
def integer (t : Text) : Except IntegerFault Int :=
  let (negative, cs) := takeSign (plain t)
  let inRun := fun c : Char => c.isDigit || c == '_'
  let run := cs.takeWhile inRun
  let ds := run.filter Char.isDigit
  if !groupsFilled false run then .error (.malformed t)
  else if digitLimit < ds.length then .error (.tooLong ds.length)
  else if !(cs.dropWhile inRun).all isSpace then .error (.malformed t)
  else .ok (if negative then -(valueOf ds : Int) else valueOf ds)

/-- The text of an integer, unless it has too many digits. -/
def integerText? (n : Int) : Option Text :=
  if pow10 digitLimit ≤ n.natAbs then none else some (Text.ofInt n)

-- ========================================================= fractions

/-- Whether every underscore stands between two digits. -/
def underscoresFit (before : Char) : List Char → Bool
  | [] => before != '_'
  | c :: cs =>
    (if c = '_' then before.isDigit else before != '_' || c.isDigit)
      && underscoresFit c cs

/-- The exponent at the end of a numeral, zero where there is none. -/
def exponent? : List Char → Option Int
  | [] => some 0
  | c :: cs =>
    if c.toLower = 'e' then
      let (negative, ds) := takeSign cs
      if ds.isEmpty || !ds.all Char.isDigit then none
      else some (if negative then -(valueOf ds : Int) else valueOf ds)
    else none

/-- The value of digits with an optional point and an optional exponent. -/
def decimal? (negative : Bool) (cs : List Char) : Option Binary64 :=
  let whole := cs.takeWhile Char.isDigit
  let (part, rest) :=
    match cs.dropWhile Char.isDigit with
    | '.' :: r => (r.takeWhile Char.isDigit, r.dropWhile Char.isDigit)
    | r => ([], r)
  if whole.isEmpty && part.isEmpty then none
  else (exponent? rest).map fun e =>
    Binary64.ofDecimal negative (valueOf (whole ++ part)) (e - part.length)

/-- The value a text denotes in the 64-bit format. -/
def fraction? (t : Text) : Option Binary64 :=
  let cs := trimRight (plain t)
  if !underscoresFit ' ' cs then none
  else
    let (negative, cs) := takeSign (cs.filter (· != '_'))
    match cs.map Char.toLower with
    | ['n', 'a', 'n'] => some .nan
    | ['i', 'n', 'f'] => some (.infinite negative)
    | ['i', 'n', 'f', 'i', 'n', 'i', 't', 'y'] => some (.infinite negative)
    | _ => decimal? negative cs

end DevicePairing.Numeral
