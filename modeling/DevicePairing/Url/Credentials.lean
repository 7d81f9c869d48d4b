/-
The user and the password that a URL is sent with.

Before a URL is sent it is read once more, whatever its scheme, and unless
a user and a password are given already they are taken from its authority.
This reading is stricter than the first: brackets must stand in pairs
around an address, and a name must not change its meaning in compatibility
form. User and password are sent as Latin-1, one byte a character.
-/
import DevicePairing.Text.Compatibility
import DevicePairing.Url.Address
import DevicePairing.Url.Percent
import DevicePairing.Url.Reference

namespace DevicePairing.Url

-- ========================================================= authority

/-- Whether the brackets of an authority stand as they may: around the
whole host, which is then an address. -/
def checkBrackets (authority : Text) : Except Fault Unit :=
  let unmatched : Except Fault Unit := .error ⟨.value, "Invalid IPv6 URL"⟩
  let opens := authority.contains (.char '[')
  let closes := authority.contains (.char ']')
  if opens != closes then unmatched
  else if !opens then .ok ()
  else
    let host := match Text.cutLast (.char '@') authority with
      | some (_, host) => host
      | none => authority
    match Text.cut (.char '[') host with
    | (name, none) => checkBracketed (Text.cut (.char ':') name).1
    | (before, some bracketed) =>
      let (address, port) := Text.cut (.char ']') bracketed
      let port := port.getD []
      if !before.isEmpty
        || (!port.isEmpty && port.head? != some (.char ':')) then unmatched
      else checkBracketed address

/-- Whether an authority keeps its meaning in compatibility form. -/
def checkCompatibility (authority : Text) : Except Fault Unit :=
  if authority.any CodePoint.isDisguised then
    .error ⟨.value, "netloc '" ++ authority
      ++ "' contains invalid characters under NFKC normalization"⟩
  else .ok ()

/-- Whether a text can be read as a reference that names a host. -/
def checkAuthority (url : Text) : Except Fault Unit := do
  let authority := (Reference.ofText url).authority
  checkBrackets authority
  checkCompatibility authority

-- ======================================================= credentials

/-- The text of bytes, with a replacement character for every faulty
stretch. -/
def replacingText (bytes : Bytes) : Text :=
  (utf8Units false bytes).map fun u =>
    match u.content with
    | .ok p => p
    | .error _ => .char '\uFFFD'

/-- A text with its escapes decoded. Bytes make characters only within a
stretch of ASCII; `run` is the one at hand, backwards. -/
def decodeRuns (run : Text) : Text → Text
  | [] => replacingText (unescape (Text.utf8 run.reverse))
  | p :: t =>
    if p.code < 128 then decodeRuns (p :: run) t
    else replacingText (unescape (Text.utf8 run.reverse)) ++ p
      :: decodeRuns [] t

/-- The user and the password of an authority, if it has both. -/
def credentials? (authority : Text) : Option (Text × Text) :=
  match Text.cutLast (.char '@') authority with
  | none => none
  | some (user, _) =>
    match Text.cut (.char ':') user with
    | (_, none) => none
    | (name, some password) =>
      some (decodeRuns [] name, decodeRuns [] password)

/-- Whether a text can be written in Latin-1. -/
def checkLatin1 (t : Text) : Except Fault Unit :=
  let isLatin1 := fun p : CodePoint => decide (p.code < 256)
  let offset := (t.takeWhile isLatin1).length
  match t.drop offset with
  | [] => .ok ()
  | p :: r =>
    let more := (r.takeWhile fun p => !isLatin1 p).length
    let found : Text :=
      if more = 0 then
        "character '" ++ Text.escapedPoint p ++ "' in position "
          ++ Text.ofNat offset
      else
        "characters in position " ++ Text.ofNat offset ++ "-"
          ++ Text.ofNat (offset + more)
    .error ⟨.encoding, "'latin-1' codec can't encode " ++ found
      ++ ": ordinal not in range(256)"⟩

/-- Whether a user and a password can be sent. -/
def checkPair (user password : Text) : Except Fault Unit := do
  checkLatin1 user
  checkLatin1 password

/-- Whether a URL can be sent, as far as its credentials go: those given,
or else those that it carries itself. It must be readable in either case. -/
def checkCredentials (given : Option (Text × Text)) (url : Text) :
    Except Fault Unit :=
  match given with
  | some (user, password) => do
    checkPair user password
    checkAuthority url
  | none => do
    checkAuthority url
    match credentials? (Reference.ofText url).authority with
    | none => .ok ()
    | some (user, password) => checkPair user password

end DevicePairing.Url
