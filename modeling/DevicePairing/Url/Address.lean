/-
Addresses as they are understood.

An address of version 4 is four numbers up to 255, written without zeros
in front. One of version 6 is eight groups of 16 bits, of which one run
may be left out and of which the last two may be written as an address of
version 4; behind a percent sign it may name its zone. Only the second
kind, or an address of a version yet to come, may stand in brackets.
-/
import DevicePairing.Fault

namespace DevicePairing.Url

/-- A number from 0 to 255 in its shortest form. -/
def isOctet (t : Text) : Bool :=
  !t.isEmpty && t.length ≤ 3 && t.all CodePoint.isDigit
    && (t.length == 1 || t.head? != some (.char '0'))
    && Numeral.valueOf (t.map fun p => Char.ofNat p.code) ≤ 255

/-- Whether a text is an address of version 4. -/
def isVersion4 (t : Text) : Bool :=
  let octets := Text.pieces (.char '.') t
  octets.length == 4 && octets.all isOctet

/-- A group of 16 bits: one to four hexadecimal digits. -/
def isGroup (t : Text) : Bool :=
  !t.isEmpty && t.length ≤ 4 && t.all fun p => p.hexDigit?.isSome

/-- The pieces between the colons, with two groups in the place of an
address of version 4 at the end. -/
def groupPieces? (t : Text) : Option (List Text) :=
  let pieces := Text.pieces (.char ':') t
  match pieces.getLast? with
  | some last =>
    if pieces.length < 3 then none
    else if last.contains (.char '.') then
      if isVersion4 last then
        some (pieces.dropLast ++ [Text.ofString "0", Text.ofString "0"])
      else none
    else some pieces
  | none => none

/-- The groups on one side of a run that is left out; the side may be
empty, and `outer` is the piece at its far end. -/
def sideLength? (side : List Text) : Option Nat :=
  if side = [[]] then some 0
  else if side.all isGroup then some side.length
  else none

/-- Whether pieces make an address: eight groups, or fewer around one
empty piece. -/
def isGroups (pieces : List Text) : Bool :=
  let inner := (List.range pieces.length).filter fun i =>
    0 < i && i + 1 < pieces.length && pieces[i]? == some []
  match inner with
  | [] => pieces.length == 8 && pieces.all isGroup
  | [i] =>
    match sideLength? (pieces.take i), sideLength? (pieces.drop (i + 1)) with
    | some m, some n => m + n ≤ 7
    | _, _ => false
  | _ => false

/-- Whether a text is an address of version 6, perhaps with a zone. -/
def isVersion6 (t : Text) : Bool :=
  let (address, zone) := Text.cut (.char '%') t
  !t.contains (.char '/')
    && (match zone with
     | none => true
     | some z => !z.isEmpty && !z.contains (.char '%'))
    && match groupPieces? address with
    | some pieces => isGroups pieces
    | none => false

/-- Whether a text behind a `v` is an address of a version yet to come: the
number of the version, a point and something more. -/
def isLaterVersion (t : Text) : Bool :=
  let version := t.takeWhile fun p => p.hexDigit?.isSome
  !version.isEmpty
    && match t.drop version.length with
    | .char '.' :: _ :: _ => true
    | _ => false

/-- Whether a text may stand in brackets. -/
def checkBracketed (t : Text) : Except Fault Unit :=
  match t with
  | .char 'v' :: r =>
    if isLaterVersion r then .ok ()
    else .error ⟨.value, "IPvFuture address is invalid"⟩
  | _ =>
    if isVersion4 t then
      .error ⟨.value, "An IPv4 address cannot be in brackets"⟩
    else if isVersion6 t then .ok ()
    else .error ⟨.value, t.quoted
      ++ " does not appear to be an IPv4 or IPv6 address"⟩

end DevicePairing.Url
