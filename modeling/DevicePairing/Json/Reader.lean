/-
Reading JSON documents.

The reader takes text apart from the left and hands on what it has not
read. A fault carries the text from which it was met, so its place is
the length of the document less the length of that text; lines and
columns are worked out only for the message. Nesting has a limit, given
by the caller. Two words beyond the standard are read, `NaN` and
`Infinity`, because the writer may produce them.
-/
import DevicePairing.Json.Value
import DevicePairing.Number.Numeral
import DevicePairing.Text.WideUnits

namespace DevicePairing.Json

-- =========================================================== faults

/-- What the reader missed or met. -/
inductive ReadFaultKind where
  | byteOrderMark
  | expectingValue
  | expectingName
  | expectingColon
  | expectingComma
  | extraData
  | controlCharacter
  | unterminatedString
  | badEscape
  | badUnitEscape
  deriving DecidableEq, Repr

/-- Why a text is no document. -/
inductive ReadFault where
  | malformed (kind : ReadFaultKind) (rest : Text)
  | integerTooLong (digits : Nat)
  | tooDeep (inList : Bool)
  deriving DecidableEq, Repr

/-- The words for a kind of fault. -/
def ReadFaultKind.message : ReadFaultKind → String
  | .byteOrderMark => "Unexpected UTF-8 BOM (decode using utf-8-sig)"
  | .expectingValue => "Expecting value"
  | .expectingName => "Expecting property name enclosed in double quotes"
  | .expectingColon => "Expecting ':' delimiter"
  | .expectingComma => "Expecting ',' delimiter"
  | .extraData => "Extra data"
  | .controlCharacter => "Invalid control character at"
  | .unterminatedString => "Unterminated string starting at"
  | .badEscape => "Invalid \\escape"
  | .badUnitEscape => "Invalid \\uXXXX escape"

/-- A place in a document by line, column and count of code points. -/
def placeText (document rest : Text) : Text :=
  let offset := document.length - rest.length
  let before := document.take offset
  let line := before.count (.char '\n') + 1
  let column := (before.reverse.takeWhile (· != .char '\n')).length + 1
  "line " ++ Text.ofNat line ++ " column " ++ Text.ofNat column ++ " (char "
    ++ Text.ofNat offset ++ ")"

/-- The words for a fault in a document. -/
def ReadFault.message (document : Text) : ReadFault → Text
  | .malformed kind rest => kind.message ++ (": " ++ placeText document rest)
  | .integerTooLong digits => Numeral.tooLongMessage digits
  | .tooDeep inList =>
    "maximum recursion depth exceeded while decoding a JSON "
      ++ Text.ofString (if inList then "array" else "object")
      ++ " from a unicode string"

namespace Reader

/-- A value that has been read, and the text behind it. -/
abbrev Reading (α : Type) := Except ReadFault (α × Text)

/-- A fault met at a text. -/
def missing {α : Type} (kind : ReadFaultKind) (rest : Text) : Reading α :=
  .error (.malformed kind rest)

-- =========================================================== blanks

/-- A blank between tokens. -/
def isGap (p : CodePoint) : Bool :=
  p == .char ' ' || p == .char '\t' || p == .char '\n' || p == .char '\r'

/-- The text from its first token. -/
def skipGap (t : Text) : Text := t.dropWhile isGap

-- ========================================================== strings

/-- The number that four hexadecimal digits denote. -/
def unitValue? (a b c d : CodePoint) : Option Nat := do
  let a ← a.hexDigit?
  let b ← b.hexDigit?
  let c ← c.hexDigit?
  let d ← d.hexDigit?
  pure (((a * 16 + b) * 16 + c) * 16 + d)

/-- The code point of an escape of one letter. -/
def letterEscape? : CodePoint → Option CodePoint
  | .char '"' => some (.char '"')
  | .char '\\' => some (.char '\\')
  | .char '/' => some (.char '/')
  | .char 'b' => some (.char '\x08')
  | .char 'f' => some (.char '\x0c')
  | .char 'n' => some (.char '\n')
  | .char 'r' => some (.char '\r')
  | .char 't' => some (.char '\t')
  | _ => none

/-- The second half of a surrogate pair behind its first half, with room
for the end of the string: the unit, or a fault inside it. -/
def secondHalf : Text → Except ReadFault (Option Nat)
  | .char '\\' :: .char 'u' :: a :: b :: c :: d :: e :: r =>
    match unitValue? a b c d with
    | none =>
      .error (.malformed .badUnitEscape
        (.char 'u' :: a :: b :: c :: d :: e :: r))
    | some n => .ok (if isLowSurrogate n then some n else none)
  | _ => .ok none

/-- The escape behind a backslash: its code point, and how many code
points it takes. `whole` is the text from the backslash. -/
def escaped (whole : Text) : Text → Except ReadFault (CodePoint × Nat)
  | .char 'u' :: r =>
    match r with
    | a :: b :: c :: d :: e :: r' =>
      match unitValue? a b c d with
      | none => .error (.malformed .badUnitEscape (.char 'u' :: r))
      | some n =>
        if isHighSurrogate n then
          match secondHalf (e :: r') with
          | .error fault => .error fault
          | .ok (some m) => .ok (.ofCode (joinPair n m), 11)
          | .ok none => .ok (.ofCode n, 5)
        else .ok (.ofCode n, 5)
    | _ => .error (.malformed .badUnitEscape (.char 'u' :: r))
  | p :: _ =>
    match letterEscape? p with
    | some c => .ok (c, 1)
    | none => .error (.malformed .badEscape whole)
  | [] => .error (.malformed .badEscape whole)

/-- The rest of a string, of which `skip` code points belong to an escape
that has been read. `opening` is the text from the opening quote. -/
def stringRest (opening : Text) : Nat → Text → Reading Text
  | _, [] => missing .unterminatedString opening
  | skip + 1, _ :: r => stringRest opening skip r
  | 0, p :: r =>
    if p = .char '"' then .ok ([], r)
    else if p = .char '\\' then
      if r.isEmpty then missing .unterminatedString opening
      else
        match escaped (p :: r) r with
        | .error fault => .error fault
        | .ok (c, length) =>
          (stringRest opening length r).map fun (t, rest) => (c :: t, rest)
    else if p.code < 0x20 then missing .controlCharacter (p :: r)
    else (stringRest opening 0 r).map fun (t, rest) => (p :: t, rest)

-- ========================================================== numbers

/-- The characters of the digits that a text begins with. -/
def leadingDigits (t : Text) : List Char :=
  (t.takeWhile CodePoint.isDigit).map fun p => Char.ofNat p.code

/-- The digits before the point: one zero, or any run that begins with
another digit. -/
def wholeDigits (t : Text) : List Char :=
  match t with
  | .char '0' :: _ => ['0']
  | _ => leadingDigits t

/-- The digits behind a point that a text begins with. -/
def pointDigits (t : Text) : List Char :=
  match t with
  | .char '.' :: r => leadingDigits r
  | _ => []

/-- The exponent that a text begins with, and how many code points it
takes; without digits there is none. -/
def leadingExponent? (t : Text) : Option (Int × Nat) :=
  match t with
  | .char e :: r =>
    if e = 'e' ∨ e = 'E' then
      let (negative, signed, r) :=
        match r with
        | .char '-' :: r => (true, 1, r)
        | .char '+' :: r => (false, 1, r)
        | r => (false, 0, r)
      let ds := leadingDigits r
      if ds.isEmpty then none
      else
        let n : Int := Numeral.valueOf ds
        some (if negative then -n else n, 1 + signed + ds.length)
    else none
  | _ => none

/-- A number without its sign. `whole` is the text from the sign. -/
def unsigned (whole : Text) (negative : Bool) (t : Text) : Reading Json :=
  let ds := wholeDigits t
  if ds.isEmpty then missing .expectingValue whole
  else
    let r := t.drop ds.length
    let part := pointDigits r
    let r := if part.isEmpty then r else r.drop (part.length + 1)
    match leadingExponent? r with
    | some (e, length) =>
      .ok (.float (.ofDecimal negative (Numeral.valueOf (ds ++ part))
        (e - part.length)), r.drop length)
    | none =>
      if !part.isEmpty then
        .ok (.float (.ofDecimal negative (Numeral.valueOf (ds ++ part))
          (-part.length)), r)
      else if Numeral.digitLimit < ds.length then
        .error (.integerTooLong ds.length)
      else
        let n : Int := Numeral.valueOf ds
        .ok (.int (if negative then -n else n), r)

/-- A number. -/
def number (t : Text) : Reading Json :=
  match t with
  | .char '-' :: r => unsigned t true r
  | _ => unsigned t false t

/-- The words that stand for values. -/
def words : List (String × Json) :=
  [("null", .null), ("true", .bool true), ("false", .bool false),
    ("NaN", .float .nan), ("Infinity", .float (.infinite false)),
    ("-Infinity", .float (.infinite true))]

/-- A word or a number. -/
def scalar (t : Text) : Reading Json :=
  match words.find? fun (word, _) => t.startsWith word with
  | some (word, v) => .ok (v, t.drop word.length)
  | none => number t

-- ======================================================== documents

mutual

/-- A value that begins at once. Every call uses up fuel, and every other
call a code point, so twice the length of the text is enough. -/
def value (depth : Nat) : Nat → Text → Reading Json
  | 0, t => missing .expectingValue t
  | fuel + 1, t =>
    match t with
    | .char '"' :: r => (stringRest t 0 r).map fun (s, rest) => (.str s, rest)
    | .char '[' :: r =>
      if depth = 0 then .error (.tooDeep true)
      else
        match skipGap r with
        | .char ']' :: r => .ok (.arr [], r)
        | r => (items (depth - 1) fuel r).map fun (vs, rest) => (.arr vs, rest)
    | .char '\x7b' :: r =>
      if depth = 0 then .error (.tooDeep false)
      else
        match skipGap r with
        | .char '\x7d' :: r => .ok (.obj [], r)
        | r =>
          (fields (depth - 1) fuel r).map fun (fs, rest) => (ofFields fs, rest)
    | _ => scalar t

/-- The items of a list up to its end. -/
def items (depth : Nat) : Nat → Text → Except ReadFault (List Json × Text)
  | 0, t => missing .expectingValue t
  | fuel + 1, t => do
    let (v, r) ← value depth fuel t
    match skipGap r with
    | .char ']' :: r => .ok ([v], r)
    | .char ',' :: r =>
      let (vs, rest) ← items depth fuel (skipGap r)
      .ok (v :: vs, rest)
    | r => missing .expectingComma r

/-- The fields of an object up to its end. -/
def fields (depth : Nat) :
    Nat → Text → Except ReadFault (List (Text × Json) × Text)
  | 0, t => missing .expectingName t
  | fuel + 1, t =>
    match t with
    | .char '"' :: r => do
      let (name, r) ← stringRest t 0 r
      match skipGap r with
      | .char ':' :: r =>
        let (v, r) ← value depth fuel (skipGap r)
        match skipGap r with
        | .char '\x7d' :: r => .ok ([(name, v)], r)
        | .char ',' :: r =>
          let (fs, rest) ← fields depth fuel (skipGap r)
          .ok ((name, v) :: fs, rest)
        | r => missing .expectingComma r
      | r => missing .expectingColon r
    | _ => missing .expectingName t

end

end Reader

/-- The value of a document, with at most `depth` levels of nesting. -/
def read (depth : Nat) (t : Text) : Except ReadFault Json := do
  if t.head? = some (.char '\uFEFF') then .error (.malformed .byteOrderMark t)
  let (v, r) ← Reader.value depth (2 * t.length + 2) (Reader.skipGap t)
  match Reader.skipGap r with
  | [] => .ok v
  | r => .error (.malformed .extraData r)

end DevicePairing.Json
