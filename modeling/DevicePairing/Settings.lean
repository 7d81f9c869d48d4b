/-
Groups of settings.

A group has named settings in a fixed order, some with a default. It is
filled by position, by name, or both, and takes any values; what they
mean is checked where they are used.
-/
import DevicePairing.Client
import DevicePairing.Pad.State

namespace DevicePairing

/-- A group of settings: its name, and its settings with their defaults. -/
structure SettingsGroup where
  name : String
  settings : List (String × Option Json)

namespace SettingsGroup

/-- The pad: the device it pairs, and the number of cells. -/
def pad : SettingsGroup where
  name := "PinPadConfig"
  settings :=
    [("unique_id", none), ("cell_count", some (.int Pad.defaultCellCount))]

/-- The pairing service: its address, the timeout of a request, and
whether this server has a pairing endpoint itself. -/
def pairing : SettingsGroup where
  name := "PairingConfig"
  settings :=
    [("pairing_url", some (.str Client.defaultUrl)),
      ("timeout_s", some (.float Client.defaultTimeout)),
      ("serve_stub", some (.bool false))]

/-- The journal: the directory it is written to, if any. -/
def journal : SettingsGroup where
  name := "JournalConfig"
  settings := [("journal_out", some .null)]

/-- The address at which the server listens unless another is given. -/
def defaultHost : String := "0.0.0.0"

/-- The port at which the server listens unless another is given. -/
def defaultPort : Nat := 5000

/-- The server: the address and the port at which it listens. -/
def web : SettingsGroup where
  name := "WebConfig"
  settings :=
    [("host", some (.str defaultHost)), ("port", some (.int defaultPort))]

/-- All groups. -/
def all : List SettingsGroup := [pad, pairing, journal, web]

-- =========================================================== filling

/-- A fault in filling a group. -/
def misuse (g : SettingsGroup) (words : Text) : Fault :=
  ⟨.type, g.name ++ (".__init__() " ++ words)⟩

/-- The settings without a default. -/
def required (g : SettingsGroup) : List String :=
  (g.settings.filter (·.2.isNone)).map (·.1)

/-- The names in quotes, as a sentence lists them. -/
def listing : List String → Text
  | [] => []
  | [a] => "'" ++ (Text.ofString a ++ "'")
  | [a, b] => "'" ++ (Text.ofString a ++ "' and '" ++ Text.ofString b ++ "'")
  | a :: r => "'" ++ (Text.ofString a ++ "', ") ++ listing r

/-- Check values given by name against the settings filled by position. -/
def checkNamed (g : SettingsGroup) (filled : List String)
    (named : List (Text × Json)) : Except Fault Unit :=
  match named with
  | [] => .ok ()
  | (n, _) :: r =>
    if (filled.map Text.ofString).contains n then
      .error (g.misuse ("got multiple values for argument '" ++ n ++ "'"))
    else if (g.settings.map fun (s, _) => Text.ofString s).contains n then
      g.checkNamed filled r
    else .error (g.misuse ("got an unexpected keyword argument '" ++ n ++ "'"))

/-- The words for more values by position than there are settings. The
group itself counts as one. -/
def tooMany (g : SettingsGroup) (given : Nat) : Text :=
  "takes from " ++ Text.ofNat (g.required.length + 1) ++ " to "
    ++ Text.ofNat (g.settings.length + 1)
    ++ " positional arguments but " ++ Text.ofNat (given + 1) ++ " were given"

/-- The words for settings that have no value. -/
def missing (names : List String) : Text :=
  "missing " ++ Text.ofNat names.length ++ " required positional argument"
    ++ Text.ofString (if names.length = 1 then "" else "s") ++ ": "
    ++ listing names

/-- The name under which the group itself is the first value. -/
def ownName : String := "self"

/-- The settings of a group with their values. -/
def fill (g : SettingsGroup) (positional : List Json)
    (named : List (Text × Json)) :
    Except Fault (List (Text × Json)) := do
  g.checkNamed (ownName :: (g.settings.take positional.length).map (·.1)) named
  if g.settings.length < positional.length then
    .error (g.misuse (g.tooMany positional.length))
  let value := fun (i : Nat) (s : String × Option Json) =>
    (positional[i]? <|> Json.lookup s.1 named) <|> s.2
  let values := g.settings.mapIdx fun i s => (s.1, value i s)
  let unset := (values.filter (·.2.isNone)).map (·.1)
  if !unset.isEmpty then .error (g.misuse (missing unset))
  .ok (values.map fun (n, v) => (Text.ofString n, v.getD .null))

end SettingsGroup

end DevicePairing
