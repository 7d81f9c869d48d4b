/-
UTF-8, in both directions.

Reading never loses a byte: `utf8Units` cuts any byte sequence into the
characters it holds and the shortest faulty stretches between them, and
every reader here is a fold over those units. The strict reader refuses
the first faulty stretch and says where it lies; the reader of a file
works block by block, and a character that is cut at the end of a block
waits for the next one.
-/
import DevicePairing.Text.CodePoint

namespace DevicePairing

abbrev Bytes := List UInt8

-- ======================================================== writing

namespace CodePoint

/-- The bytes of a code point. A surrogate takes the three bytes its
number asks for, which strict UTF-8 refuses. -/
def utf8 (p : CodePoint) : Bytes :=
  let n := p.code
  if n < 0x80 then [UInt8.ofNat n]
  else if n < 0x800 then
    [UInt8.ofNat (0xC0 + n / 64), UInt8.ofNat (0x80 + n % 64)]
  else if n < 0x10000 then
    [UInt8.ofNat (0xE0 + n / 4096), UInt8.ofNat (0x80 + n / 64 % 64),
      UInt8.ofNat (0x80 + n % 64)]
  else
    [UInt8.ofNat (0xF0 + n / 262144), UInt8.ofNat (0x80 + n / 4096 % 64),
      UInt8.ofNat (0x80 + n / 64 % 64), UInt8.ofNat (0x80 + n % 64)]

/-- Whether a code point is a surrogate. -/
def isSurrogate : CodePoint → Bool
  | .char _ => false
  | .surrogate _ => true

end CodePoint

/-- Surrogates where characters are needed: how many characters stand
before the first, and the surrogates from there on. -/
structure LoneSurrogate where
  offset : Nat
  first : Fin 2048
  count : Nat
  deriving DecidableEq, Repr

namespace Text

/-- The bytes of a text, surrogates included. -/
def utf8 (t : Text) : Bytes := t.flatMap CodePoint.utf8

/-- The first run of surrogates in a text. -/
def loneSurrogate? (t : Text) : Option LoneSurrogate :=
  let before := t.takeWhile (!·.isSurrogate)
  match t.dropWhile (!·.isSurrogate) with
  | .surrogate n :: r =>
    some ⟨before.length, n, (r.takeWhile (·.isSurrogate)).length + 1⟩
  | _ => none

/-- The bytes of a text without surrogates. -/
def strictUtf8 (t : Text) : Except LoneSurrogate Bytes :=
  match t.loneSurrogate? with
  | some f => .error f
  | none => .ok t.utf8

end Text

-- ======================================================== reading

/-- What is wrong with a faulty stretch of bytes. -/
inductive Utf8Reason where
  | invalidStart
  | invalidContinuation
  | unexpectedEnd
  deriving DecidableEq, Repr

/-- One character with its bytes, or one faulty stretch. -/
structure Utf8Unit where
  bytes : Bytes
  content : Except Utf8Reason CodePoint

/-- A byte `80` to `BF`. -/
def isTailByte (b : UInt8) : Bool := 0x80 ≤ b.toNat && b.toNat < 0xC0

/-- Whether the second byte may follow the first: no overlong form, no
number beyond `10FFFF`, and a surrogate only where `lone` allows it. -/
def isSecondByte (lone : Bool) (a b : UInt8) : Bool :=
  isTailByte b
    && (if a = 0xE0 then 0xA0 ≤ b.toNat
     else if a = 0xED then lone || b.toNat < 0xA0
     else if a = 0xF0 then 0x90 ≤ b.toNat
     else if a = 0xF4 then b.toNat < 0x90
     else true)

/-- The characters and faulty stretches of a byte sequence, in order. A
faulty stretch ends before the first byte that cannot go on the character
begun; where the bytes run out first, all that is left is faulty. -/
def utf8Units (lone : Bool) : Bytes → List Utf8Unit
  | [] => []
  | a :: r =>
    let x := a.toNat
    if x < 0x80 then ⟨[a], .ok (.ofCode x)⟩ :: utf8Units lone r
    else if x < 0xC2 then ⟨[a], .error .invalidStart⟩ :: utf8Units lone r
    else if x < 0xE0 then
      match r with
      | [] => [⟨[a], .error .unexpectedEnd⟩]
      | b :: r' =>
        if isTailByte b then
          ⟨[a, b], .ok (.ofCode ((x - 0xC0) * 64 + (b.toNat - 0x80)))⟩
            :: utf8Units lone r'
        else ⟨[a], .error .invalidContinuation⟩ :: utf8Units lone (b :: r')
    else if x < 0xF0 then
      match r with
      | [] => [⟨[a], .error .unexpectedEnd⟩]
      | b :: r' =>
        if !isSecondByte lone a b then
          ⟨[a], .error .invalidContinuation⟩ :: utf8Units lone (b :: r')
        else
          match r' with
          | [] => [⟨[a, b], .error .unexpectedEnd⟩]
          | c :: r'' =>
            if isTailByte c then
              ⟨[a, b, c],
                .ok (.ofCode ((x - 0xE0) * 4096 + (b.toNat - 0x80) * 64
                  + (c.toNat - 0x80)))⟩
                :: utf8Units lone r''
            else
              ⟨[a, b], .error .invalidContinuation⟩ :: utf8Units lone (c :: r'')
    else if x < 0xF5 then
      match r with
      | [] => [⟨[a], .error .unexpectedEnd⟩]
      | b :: r' =>
        if !isSecondByte lone a b then
          ⟨[a], .error .invalidContinuation⟩ :: utf8Units lone (b :: r')
        else
          match r' with
          | [] => [⟨[a, b], .error .unexpectedEnd⟩]
          | c :: r'' =>
            if !isTailByte c then
              ⟨[a, b], .error .invalidContinuation⟩ :: utf8Units lone (c :: r'')
            else
              match r'' with
              | [] => [⟨[a, b, c], .error .unexpectedEnd⟩]
              | d :: r''' =>
                if isTailByte d then
                  ⟨[a, b, c, d],
                    .ok (.ofCode ((x - 0xF0) * 262144
                      + (b.toNat - 0x80) * 4096
                      + (c.toNat - 0x80) * 64 + (d.toNat - 0x80)))⟩
                    :: utf8Units lone r'''
                else
                  ⟨[a, b, c], .error .invalidContinuation⟩
                    :: utf8Units lone (d :: r''')
    else ⟨[a], .error .invalidStart⟩ :: utf8Units lone r

/-- A faulty stretch and where it begins. -/
structure Utf8Fault where
  offset : Nat
  bytes : Bytes
  reason : Utf8Reason
  deriving DecidableEq, Repr

/-- The text of units without a faulty stretch. -/
def textOfUnits (offset : Nat) : List Utf8Unit → Except Utf8Fault Text
  | [] => .ok []
  | u :: us =>
    match u.content with
    | .error reason => .error ⟨offset, u.bytes, reason⟩
    | .ok p => (textOfUnits (offset + u.bytes.length) us).map (p :: ·)

/-- The text of a byte sequence, refusing the first faulty stretch. -/
def decodeUtf8 (lone : Bool) (bytes : Bytes) : Except Utf8Fault Text :=
  textOfUnits 0 (utf8Units lone bytes)

-- ================================================ block by block

/-- Whether a unit waits with all that follow it: a character that is cut
at the end, or the first two bytes of a surrogate. -/
def waits (u : Utf8Unit) (us : List Utf8Unit) : Bool :=
  match u.content, us with
  | .error .unexpectedEnd, _ => true
  | .error .invalidContinuation, [v] =>
    u.bytes == [0xED] && v.bytes.all isTailByte
  | _, _ => false

/-- The units to decode now and the bytes that wait. -/
def splitWaiting : List Utf8Unit → List Utf8Unit × Bytes
  | [] => ([], [])
  | u :: us =>
    if waits u us then ([], (u :: us).flatMap (·.bytes))
    else
      let (now, waiting) := splitWaiting us
      (u :: now, waiting)

/-- Text read from successive blocks, with the fault that ended the
reading. The fault is placed within the bytes in hand when it was met:
those that waited and the block after them. -/
def decodeBlocks (waiting : Bytes) : List Bytes → Text × Option Utf8Fault
  | [] =>
    match decodeUtf8 false waiting with
    | .ok t => (t, none)
    | .error fault => ([], some fault)
  | block :: blocks =>
    let (now, waiting') := splitWaiting (utf8Units false (waiting ++ block))
    match textOfUnits 0 now with
    | .error fault => ([], some fault)
    | .ok t =>
      let (t', fault) := decodeBlocks waiting' blocks
      (t ++ t', fault)

/-- A byte sequence in blocks of `size` bytes, the last one shorter. -/
def blocksOf (size : Nat) (bytes : Bytes) : List Bytes :=
  (List.range ((bytes.length + size - 1) / size)).map fun i =>
    (bytes.drop (i * size)).take size

end DevicePairing
