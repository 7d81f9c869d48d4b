/-
Percent encoding.

A byte that may not stand for itself is written as a percent sign and two
hexadecimal digits. Three sets decide what may: a form value keeps the
unreserved characters alone, a component of a URL keeps the delimiters of
its kind too, and a whole URL keeps every delimiter there is. Decoding
takes any well-formed escape and leaves every other percent sign alone.
-/
import DevicePairing.Fault
import DevicePairing.Text.Alphanumeric
import DevicePairing.Text.DecimalDigit

namespace DevicePairing.Url

-- ========================================================= characters

/-- A letter or digit of ASCII, or one of `_`, `.`, `-` and `~`. -/
def isUnreserved (c : Char) : Bool :=
  ('a' ≤ c && c ≤ 'z') || ('A' ≤ c && c ≤ 'Z') || ('0' ≤ c && c ≤ '9')
    || "_.-~".toList.contains c

/-- What a user's name and password keep. -/
def isUserChar (c : Char) : Bool :=
  isUnreserved c || "!$&'()*+,;=:".toList.contains c

/-- What a path keeps. -/
def isPathChar (c : Char) : Bool := isUserChar c || c == '@' || c == '/'

/-- What a query and a fragment keep. -/
def isQueryChar (c : Char) : Bool := isPathChar c || c == '?'

/-- What a whole URL keeps, percent signs apart. -/
def isUrlChar (c : Char) : Bool :=
  isUnreserved c || "!#$&'()*+,/:;=?@[]~".toList.contains c

/-- A hexadecimal digit, in upper case. -/
def upperHex (n : Nat) : Char :=
  if n < 10 then Char.ofNat (48 + n) else Char.ofNat (55 + n)

/-- A byte as an escape. -/
def escapeByte (b : UInt8) : Text :=
  [.char '%', .char (upperHex (b.toNat / 16)), .char (upperHex (b.toNat % 16))]

/-- A byte that may stand for itself, or its escape. -/
def encodeByte (keep : Char → Bool) (b : UInt8) : Text :=
  let c := Char.ofNat b.toNat
  if b.toNat < 128 && keep c then [.char c] else escapeByte b

/-- Bytes with all escaped but what `keep` allows. -/
def encodeBytes (keep : Char → Bool) (bytes : Bytes) : Text :=
  bytes.flatMap (encodeByte keep)

-- ============================================================= forms

/-- A byte of a form value; a blank is written as a plus sign. -/
def encodeFormByte (b : UInt8) : Text :=
  if b = 0x20 then [.char '+'] else encodeByte isUnreserved b

/-- A form value. -/
def encodeForm (t : Text) : Except Fault Text :=
  t.encode.map fun bytes => bytes.flatMap encodeFormByte

-- ========================================================== decoding

/-- Bytes with every well-formed escape replaced by its byte; `skip` of
them belong to an escape that has been read. -/
def unescapeFrom : Nat → Bytes → Bytes
  | _, [] => []
  | skip + 1, _ :: r => unescapeFrom skip r
  | 0, b :: r =>
    if b = 0x25 then
      match r with
      | x :: y :: _ =>
        match (CodePoint.ofCode x.toNat).hexDigit?,
          (CodePoint.ofCode y.toNat).hexDigit? with
        | some x, some y => UInt8.ofNat (x * 16 + y) :: unescapeFrom 2 r
        | _, _ => b :: unescapeFrom 0 r
      | _ => b :: unescapeFrom 0 r
    else b :: unescapeFrom 0 r

/-- Bytes with every well-formed escape replaced by its byte. -/
def unescape (bytes : Bytes) : Bytes := unescapeFrom 0 bytes

/-- The text of bytes, with every byte that is no text as an escape. -/
def lenientText (bytes : Bytes) : Text :=
  (utf8Units false bytes).flatMap fun u =>
    match u.content with
    | .ok p => [p]
    | .error _ => u.bytes.flatMap escapeByte

-- ========================================================= components

/-- Whether a percent sign and two hexadecimal digits begin a text. -/
def isEscape : Text → Bool
  | .char '%' :: a :: b :: _ => a.hexDigit?.isSome && b.hexDigit?.isSome
  | _ => false

/-- The escapes of a text in upper case, and whether every percent sign
belongs to one. -/
def upperEscapes : Nat → Text → Text × Bool
  | _, [] => ([], true)
  | skip + 1, p :: t =>
    let (r, all) := upperEscapes skip t
    (p.toUpper :: r, all)
  | 0, p :: t =>
    if p = .char '%' then
      let isOne := isEscape (p :: t)
      let (r, all) := upperEscapes (if isOne then 2 else 0) t
      (p :: r, all && isOne)
    else
      let (r, all) := upperEscapes 0 t
      (p :: r, all)

/-- A component with all escaped but what `keep` allows. Escapes in it
stay if every percent sign belongs to one; else every percent sign is
escaped. -/
def encodeComponent (keep : Char → Bool) (t : Text) : Text :=
  let (t, isEncoded) := upperEscapes 0 t
  encodeBytes (fun c => keep c || (isEncoded && c == '%')) t.utf8

-- ============================================================ whole URLs

/-- The value of a hexadecimal digit. The decimal digits of every script
count. -/
def looseHexDigit? (p : CodePoint) : Option Nat :=
  p.hexDigit? <|> Text.decimalValue? p

/-- A piece behind a percent sign: an escaped unreserved character is
decoded, and two letters or numbers that are not hexadecimal are a fault. -/
def unescapePiece (piece : Text) : Option Text :=
  match piece with
  | a :: b :: r =>
    if Text.isAlphanumeric a && Text.isAlphanumeric b then
      match looseHexDigit? a, looseHexDigit? b with
      | some x, some y =>
        let c := Char.ofNat (x * 16 + y)
        if isUnreserved c then some (.char c :: r)
        else some (.char '%' :: piece)
      | _, _ => none
    else some (.char '%' :: piece)
  | _ => some (.char '%' :: piece)

/-- A URL with its escaped unreserved characters decoded; nothing if some
percent sign stands before letters or digits that are no escape. -/
def unescapeUnreserved (url : Text) : Option Text :=
  match Text.pieces (.char '%') url with
  | [] => some []
  | p :: ps => (ps.mapM unescapePiece).map fun qs => p ++ qs.flatten

/-- A whole URL in its final spelling. -/
def encodeWhole (url : Text) : Except Fault Text :=
  match unescapeUnreserved url with
  | some t => t.encode.map (encodeBytes fun c => isUrlChar c || c == '%')
  | none => url.encode.map (encodeBytes isUrlChar)

end DevicePairing.Url
