/-
Names of hosts.

A host may be named in any script, but on the wire its name is ASCII. What
a name in another script is spelled as there depends on tables that are not
kept here: `HostNames` stands for them. Two readers consult them, one for
the hosts of web addresses and one for all others, and both may refuse a
name. All that is relied on is that what they give is the name of a host
as it goes on the wire.
-/
import DevicePairing.Url.Percent

namespace DevicePairing.Url

/-- Whether a text may stand for a host: escapes, and any other code
points but the delimiters of a URL. -/
def isRegisteredName : Nat → Text → Bool
  | _, [] => true
  | skip + 1, _ :: t => isRegisteredName skip t
  | 0, p :: t =>
    if p = .char '%' then isEscape (p :: t) && isRegisteredName 2 t
    else
      !("[]:/?#".toList.map CodePoint.char).contains p && isRegisteredName 0 t

/-- Whether a text is all ASCII. -/
def isAscii (t : Text) : Bool := t.all fun p => p.code < 128

/-- Whether a text is the name of a host as it goes on the wire. -/
def isWireName (name : Text) : Bool := isAscii name && isRegisteredName 0 name

/-- What the names of hosts in other scripts are spelled as: `web` is for
the hosts of web addresses and says why there is no name, `other` is for
all other hosts. -/
structure HostNames where
  web : Text → Except Text Text
  other : Text → Option Text
  isWireName_web : ∀ host name, web host = .ok name → isWireName name = true
  isWireName_other :
    ∀ host name, other host = some name → isWireName name = true

namespace HostNames

/-- What a table gives for a host, if that is the name of one. -/
def lookup? (table : List (Text × Text)) (host : Text) : Option Text :=
  ((table.find? (·.1 = host)).map (·.2)).filter isWireName

theorem isWireName_lookup? {table : List (Text × Text)} {host name : Text}
    (h : lookup? table host = some name) : isWireName name = true :=
  (Option.filter_eq_some_iff.mp h).2

/-- The names of a table; no other host has one. -/
def ofTable (table : List (Text × Text)) : HostNames where
  web host :=
    match lookup? table host with
    | some name => .ok name
    | none => .error ("Name '" ++ host ++ "' is not a valid IDNA label")
  other := lookup? table
  isWireName_web host name h := by
    split at h
    · rename_i hname
      cases h
      exact isWireName_lookup? hname
    · cases h
  isWireName_other _ _ := isWireName_lookup?

end HostNames

end DevicePairing.Url
