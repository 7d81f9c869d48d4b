/-
The parts of a URL.

A URL is cut from the left: a scheme up to a colon, an authority behind
two slashes, a path, a query behind a question mark, a fragment behind a
hash. A text that begins with neither a scheme nor a slash is read as an
authority. Only the two web schemes, and URLs without any, are brought
into a normal form; of every other only the parts are known.
-/
import DevicePairing.Url.Address
import DevicePairing.Url.HostName
import DevicePairing.Url.Scheme

namespace DevicePairing.Url

/-- The parts of a URL. -/
structure Parts where
  scheme : Option Text
  user : Option Text
  host : Text
  port : Option Nat
  path : Text
  query : Option Text
  fragment : Option Text
  deriving DecidableEq, Repr

-- =========================================================== scheme

/-- A text that can be cut: with a scheme or a slash at its beginning. -/
def anchored (t : Text) : Text :=
  if t.head? = some (.char '/') || (takeScheme "+-" t).isSome then t
  else "//" ++ t

-- ========================================================= authority

/-- Four groups of one to three digits, with points between them. -/
def isDottedQuad (t : Text) : Bool :=
  let groups := Text.pieces (.char '.') t
  groups.length == 4
    && groups.all fun g =>
      0 < g.length && g.length ≤ 3 && g.all CodePoint.isDigit

/-- How many groups of 16 bits the pieces between colons make, if every
piece is one; the last may be a dotted quad where `quad` allows it. -/
def groupCount? (quad : Bool) : List Text → Option Nat
  | [] => some 0
  | [g] =>
    if isGroup g then some 1
    else if quad && isDottedQuad g then some 2 else none
  | g :: gs => if isGroup g then (groupCount? quad gs).map (· + 1) else none

/-- The texts before and after the first double colon. -/
def cutDoubleColon : Text → Option (Text × Text)
  | .char ':' :: .char ':' :: t => some ([], t)
  | [] => none
  | p :: t => (cutDoubleColon t).map fun (a, b) => (p :: a, b)

/-- The pieces between colons, none for an empty text. -/
def groups (t : Text) : List Text :=
  if t.isEmpty then [] else Text.pieces (.char ':') t

/-- Whether a text is an address of eight groups, or of fewer around one
double colon. -/
def isAddress (t : Text) : Bool :=
  match cutDoubleColon t with
  | none => groupCount? true (groups t) == some 8
  | some (a, b) =>
    match groupCount? false (groups a), groupCount? true (groups b) with
    | some m, some n => m + n ≤ 7
    | _, _ => false

/-- Whether a text names the zone of an address, percent sign included. -/
def isZone (t : Text) : Bool :=
  let rec go : Nat → Text → Bool
    | _, [] => true
    | skip + 1, _ :: t => go skip t
    | 0, p :: t =>
      if p = .char '%' then isEscape (p :: t) && go 2 t
      else
        match p with
        | .char c => isUnreserved c && go 0 t
        | .surrogate _ => false
  match t with
  | .char '%' :: .char '2' :: .char '5' :: r => go 0 r
  | .char '%' :: r => !r.isEmpty && go 0 r
  | _ => false

/-- Whether a text is an address in brackets, perhaps with a zone. -/
def isBracketed (t : Text) : Bool :=
  match t with
  | .char '[' :: r =>
    match r.getLast? with
    | some (.char ']') =>
      let (address, zone) := Text.cut (.char '%') r.dropLast
      isAddress address
        && match zone with
        | none => true
        | some z => isZone (.char '%' :: z)
    | _ => false
  | _ => false

/-- A port: digits, of which at most five count once the zeros in front
are gone. No digit at all is no port. -/
def port? (t : Text) : Option (Option Nat) :=
  if !t.all CodePoint.isDigit then none
  else
    let ds := t.dropWhile (· == .char '0')
    if t.isEmpty then some none
    else if 5 < ds.length then none
    else some (some (Numeral.valueOf (ds.map fun p => Char.ofNat p.code)))

/-- The host and the port of an authority without its user. -/
def hostAndPort? (t : Text) : Option (Text × Option Nat) :=
  let isHost := fun h : Text => isRegisteredName 0 h || isBracketed h
  if isHost t then some (t, none)
  else
    match Text.cutLast (.char ':') t with
    | some (host, port) =>
      if isHost host then (port? port).map fun p => (host, p) else none
    | none => none

/-- A blank or a control character of ASCII: no host may hold one. -/
def isControl (n : Nat) : Bool := n ≤ 0x20 || n == 0x7F

/-- The fault of a text that cannot be cut or used. -/
def unparsed (why : Text) : Fault := ⟨.invalidUrl, "Failed to parse: " ++ why⟩

/-- The fault of a host. -/
def hostFault (host : Text) (what : String) (found : Text) : Fault :=
  unparsed ("Host " ++ host.quoted ++ " contains invalid " ++ what ++ " "
    ++ found.quoted)

/-- The fault of a text that holds a control character, if it does. -/
def checkControls (host : Text) : Except Fault Unit :=
  match host.find? fun p => isControl p.code with
  | some p => .error (hostFault host "character" [p])
  | none => .ok ()

/-- The first control character that a text holds as an escape, spelled
as it stands there. A blank may be escaped. -/
def escapedControl? : Text → Option Text
  | [] => none
  | p :: t =>
    match p, t with
    | .char '%', a :: b :: _ =>
      match a.hexDigit?, b.hexDigit? with
      | some x, some y =>
        let n := x * 16 + y
        if isControl n && n != 0x20 then some [p, a, b] else escapedControl? t
      | _, _ => escapedControl? t
    | _, _ => escapedControl? t

-- =========================================================== normal form

/-- Whether the parts of a URL with this scheme are normalised. -/
def isNormalised (scheme : Option Text) : Bool :=
  match scheme with
  | none => true
  | some s => s = Text.ofString "http" || s = Text.ofString "https"

/-- The segments that stay: a single dot goes, two dots take the segment
before them along. -/
def keepSegments (segments : List Text) : List Text :=
  (segments.foldl
    (fun kept s =>
      if s = Text.ofString "." then kept
      else if s = Text.ofString ".." then kept.tail
      else s :: kept)
    []).reverse

/-- A path without dot segments. -/
def withoutDots (path : Text) : Text :=
  let segments := Text.pieces (.char '/') path
  let kept := keepSegments segments
  let rooted :=
    if path.startsWith "/"
      && (match kept with | [] => true | s :: _ => !s.isEmpty) then [] :: kept
    else kept
  let endsInDots :=
    1 < segments.length
      && match segments.getLast? with
      | some s => s = Text.ofString "." || s = Text.ofString ".."
      | none => false
  Text.join "/" (if endsInDots then rooted ++ [[]] else rooted)

/-- A number behind `0x`. -/
def isHexNumber (t : Text) : Bool :=
  match t with
  | .char '0' :: .char x :: ds =>
    (x == 'x' || x == 'X') && !ds.isEmpty && ds.all fun p => p.hexDigit?.isSome
  | _ => false

/-- One to four numbers with points between them: an address in one of
its older spellings. -/
def isNumeric (host : Text) : Bool :=
  let numbers := Text.pieces (.char '.') host
  numbers.length ≤ 4 && numbers.all fun n =>
    isHexNumber n || (!n.isEmpty && n.all CodePoint.isDigit)

/-- A registered name in lower case. An escape of an unreserved character
gives way to the character; all others are spelled in upper case. -/
def normalName (name : Text) : Text :=
  match Text.pieces (.char '%') name with
  | [] => []
  | p :: ps => (p.map CodePoint.toLower :: ps.map unescapeNamePiece).flatten
where
  /-- A piece behind a percent sign. -/
  unescapeNamePiece : Text → Text
    | a :: b :: r =>
      let rest := r.map CodePoint.toLower
      match a.hexDigit?, b.hexDigit? with
      | some x, some y =>
        let c := Char.ofNat (x * 16 + y)
        if isUnreserved c then .char c.toLower :: rest
        else .char '%' :: a.toUpper :: b.toUpper :: rest
      | _, _ => .char '%' :: a :: b :: rest
    | t => .char '%' :: t

/-- A host in its normal form. Of an address in brackets the zone keeps
its case, and a numeric host stays as it is. -/
def normalHost (host : Text) : Text :=
  if isBracketed host then
    match Text.cut (.char '%') host with
    | (h, none) => h.map CodePoint.toLower
    | (h, some zone) =>
      let zone := zone.dropLast
      let zone :=
        match zone with
        | .char '2' :: .char '5' :: p :: r => p :: r
        | z => z
      h.map CodePoint.toLower ++ "%" ++ encodeComponent isUnreserved zone ++ "]"
  else if isNumeric host then host
  else normalName host

/-- A host in its normal form, if it holds no escaped control character. A
host in another script is known by its name on the wire. -/
def normalHost? (names : HostNames) (host : Text) : Except Fault Text :=
  if isAscii host then
    match escapedControl? host with
    | some found =>
      .error (hostFault host "percent-encoded control character" found)
    | none => .ok (normalHost host)
  else
    match names.web host with
    | .ok name => .ok name
    | .error why => .error (unparsed why)

-- ============================================================== cutting

/-- The authority at the beginning of a text, if two slashes announce one. -/
def takeAuthority (t : Text) : Option Text × Text :=
  match t with
  | .char '/' :: .char '/' :: r =>
    let isInside := fun p : CodePoint =>
      !("\\/?#".toList.map CodePoint.char).contains p
    (some (r.takeWhile isInside), r.dropWhile isInside)
  | _ => (none, t)

/-- The user, the host and the port of an authority of the URL `url`. A
port must be in range before the host is looked at; where no port can be
told apart, the fault is one of the host with whatever follows it. -/
def splitAuthority (url authority : Text) :
    Except Fault (Option Text × Text × Option Nat) := do
  let (user, rest) := (Text.cutLast (.char '@') authority).getD ([], authority)
  match hostAndPort? rest with
  | none =>
    checkControls rest
    .error (unparsed (rest.quoted ++ " is not a valid host or port"))
  | some (host, port) =>
    if (port.getD 0) > 65535 then .error (unparsed url)
    checkControls host
    .ok (if user.isEmpty then none else some user, host, port)

/-- The parts of a URL, normalised where its scheme is known. -/
def Parts.ofText (names : HostNames) (url : Text) : Except Fault Parts := do
  let url := anchored url
  let (scheme, t) :=
    match takeScheme "+.-" url with
    | some (s, r) => (some (s.map CodePoint.toLower), r)
    | none => (none, url)
  let (authority, t) := takeAuthority t
  let (beforeFragment, fragment) := Text.cut (.char '#') t
  let (path, query) := Text.cut (.char '?') beforeFragment
  let normalised := isNormalised scheme
  let component := fun (keep : Char → Bool) (c : Text) =>
    if normalised then encodeComponent keep c else c
  let (user, host, port) ←
    match authority with
    | none => .ok (none, [], none)
    | some a => if a.isEmpty then .ok (none, [], none) else splitAuthority url a
  let host ← if normalised then normalHost? names host else .ok host
  .ok {
    scheme
    user := user.map (component isUserChar)
    host
    port
    path := component isPathChar (if normalised then withoutDots path else path)
    query := query.map (component isQueryChar)
    fragment := fragment.map (component isQueryChar) }

end DevicePairing.Url
