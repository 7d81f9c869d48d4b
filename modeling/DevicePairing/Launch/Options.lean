/-
The options of the command line.

A word of the command line is an option if it begins with a dash and is
neither a dash alone, nor a negative number, nor a word with a blank in
it. The long options may be cut short as long as one option alone is
meant, and may carry their value behind an equals sign; a double dash
there leaves the value out. All words are looked at before any option
takes effect, so an ambiguous one is refused first; after that the
options take effect from left to right. What no option accounts for is
refused at the very end.
-/
import DevicePairing.Settings
import DevicePairing.Text.Path

namespace DevicePairing.Launch

-- =========================================================== options

/-- An option. -/
inductive Key where
  | help
  | uniqueId
  | cells
  | pairingUrl
  | timeout
  | servePairing
  | register
  | journalOut
  | webHost
  | webPort
  deriving DecidableEq, Repr

namespace Key

/-- All options, in the order in which help lists them. -/
def all : List Key :=
  [.help, .uniqueId, .cells, .pairingUrl, .timeout, .servePairing, .register,
    .journalOut, .webHost, .webPort]

/-- The spellings of an option. -/
def spellings : Key → List String
  | .help => ["-h", "--help"]
  | .uniqueId => ["--unique-id"]
  | .cells => ["--cells"]
  | .pairingUrl => ["--pairing-url"]
  | .timeout => ["--timeout"]
  | .servePairing => ["--serve-pairing"]
  | .register => ["--register"]
  | .journalOut => ["--journal-out"]
  | .webHost => ["--web-host"]
  | .webPort => ["--web-port"]

/-- The word that stands for the value of an option, if it takes one. -/
def placeholder? : Key → Option String
  | .help | .servePairing => none
  | .uniqueId | .register => some "UNIQUE_ID"
  | .cells => some "CELLS"
  | .pairingUrl => some "PAIRING_URL"
  | .timeout => some "TIMEOUT"
  | .journalOut => some "JOURNAL_OUT"
  | .webHost => some "WEB_HOST"
  | .webPort => some "WEB_PORT"

/-- Whether an option must be given. -/
def isRequired (k : Key) : Bool := k == .uniqueId

/-- The name of an option in messages. -/
def label (k : Key) : String := String.intercalate "/" k.spellings

/-- Every spelling beside its option, in the order of `all`. -/
def spelled : List (String × Key) :=
  all.flatMap fun k => k.spellings.map fun s => (s, k)

/-- The option with exactly this spelling. -/
def ofSpelling? (t : Text) : Option Key :=
  (spelled.find? fun (s, _) => Text.ofString s = t).map (·.2)

end Key

/-- The value of an option that was given; it may have been left out. -/
inductive Given (α : Type) where
  | value (a : α)
  | nothing
  deriving DecidableEq, Repr

/-- The value of an option as a setting. One that was left out is an empty
list. -/
def Given.setting {α : Type} (toJson : α → Json) : Given α → Json
  | .value a => toJson a
  | .nothing => .arr []

/-- What the command line asks for. -/
structure Options where
  uniqueId : Option (Given Text) := none
  cells : Given Int := .value Pad.defaultCellCount
  pairingUrl : Given Text := .value Client.defaultUrl
  timeout : Given Binary64 := .value Client.defaultTimeout
  servePairing : Bool := false
  register : List (Given Text) := []
  journalOut : Option (Given Text) := none
  webHost : Given Text := .value SettingsGroup.defaultHost
  webPort : Given Int := .value SettingsGroup.defaultPort

-- ============================================================= faults

/-- Why a command line is refused. -/
inductive UsageFault where
  | ambiguous (word : Text) (spellings : List String)
  | superfluousValue (key : Key) (value : Text)
  | missingValue (key : Key)
  | invalidValue (key : Key) (kind : String) (value : Text)
  | missingOptions (keys : List Key)
  | unrecognized (words : List Text)
  deriving DecidableEq, Repr

/-- The words for a fault that concerns one option. -/
def aboutOption (k : Key) (words : Text) : Text :=
  "argument " ++ (k.label ++ (": " ++ words))

/-- The words for a fault. -/
def UsageFault.message : UsageFault → Text
  | .ambiguous word spellings =>
    "ambiguous option: " ++ word ++ " could match "
      ++ Text.ofString (String.intercalate ", " spellings)
  | .superfluousValue key value =>
    aboutOption key ("ignored explicit argument " ++ value.quoted)
  | .missingValue key => aboutOption key "expected one argument"
  | .invalidValue key kind value =>
    aboutOption key ("invalid "
      ++ (Text.ofString kind ++ " value: " ++ value.quoted))
  | .missingOptions keys =>
    "the following arguments are required: "
      ++ Text.ofString (String.intercalate ", " (keys.map Key.label))
  | .unrecognized words => "unrecognized arguments: " ++ Text.join " " words

-- ============================================================== words

/-- A word of the command line: an option, whether it is spelled short, and
what follows in the same word; an option that is not known; the double
dash; or a plain word. -/
inductive Word where
  | option (key : Key) (isShort : Bool) (value : Option Text)
  | unknown (t : Text)
  | doubleDash
  | plain (t : Text)
  deriving DecidableEq, Repr

/-- A digit of any script. -/
def isAnyDigit (p : CodePoint) : Bool := (Text.decimalValue? p).isSome

/-- Whether a word is a negative number: a dash, then digits, or digits
with a point before the last ones. -/
def isNegativeNumber (t : Text) : Bool :=
  match t with
  | .char '-' :: r =>
    let r := if r.getLast? = some (.char '\n') then r.dropLast else r
    match r.dropWhile isAnyDigit with
    | [] => !r.isEmpty
    | .char '.' :: r => !r.isEmpty && r.all isAnyDigit
    | _ => false
  | _ => false

/-- The long options whose spelling begins with a text. -/
def completions (t : Text) : List (String × Key) :=
  Key.spelled.filter fun (s, _) => t.isPrefixOf (Text.ofString s)

/-- A word that begins with a dash and is no spelling of an option. -/
def classifyOther (t : Text) : Word :=
  if isNegativeNumber t || t.contains (.char ' ') then .plain t else .unknown t

/-- What a word before any double dash is. -/
def classify (t : Text) : Except UsageFault Word :=
  match t with
  | .char '-' :: r =>
    match Key.ofSpelling? t with
    | some k => .ok (.option k (r.head? != some (.char '-')) none)
    | none =>
      let (before, value) := Text.cut (.char '=') t
      match r, Key.ofSpelling? before, value with
      | [], _, _ => .ok (.plain t)
      | p :: _, some k, some v => .ok (.option k (p != .char '-') (some v))
      | .char '-' :: _, _, _ =>
        match completions before with
        | [] => .ok (classifyOther t)
        | [(_, k)] => .ok (.option k false value)
        | several => .error (.ambiguous t (several.map (·.1)))
      | p :: more, _, _ =>
        match Key.ofSpelling? [.char '-', p] with
        | some k => .ok (.option k true (some more))
        | none => .ok (classifyOther t)
  | _ => .ok (.plain t)

/-- What the words of a command line are. Behind a double dash all are plain. -/
def classifyAll : List Text → Except UsageFault (List Word)
  | [] => .ok []
  | t :: ts =>
    if t = Text.ofString "--" then .ok (.doubleDash :: ts.map .plain)
    else do
      let w ← classify t
      let ws ← classifyAll ts
      .ok (w :: ws)

-- ============================================================= values

/-- The value that a word gives to an option. -/
def givenBy {α : Type} (read : Text → Except UsageFault α) (v : Text) :
    Except UsageFault (Given α) :=
  if v = Text.ofString "--" then .ok .nothing else (read v).map .value

/-- A word as a whole number. -/
def readInteger (k : Key) (v : Text) : Except UsageFault Int :=
  match Numeral.integer v with
  | .ok n => .ok n
  | .error _ => .error (.invalidValue k "int" v)

/-- A word as a number. -/
def readFraction (k : Key) (v : Text) : Except UsageFault Binary64 :=
  match Numeral.fraction? v with
  | some x => .ok x
  | none => .error (.invalidValue k "float" v)

/-- An option with its value, taken into the options. -/
def setValue (o : Options) (k : Key) (v : Text) : Except UsageFault Options :=
  match k with
  | .uniqueId => (givenBy .ok v).map fun x => { o with uniqueId := some x }
  | .cells => (givenBy (readInteger k) v).map fun x => { o with cells := x }
  | .pairingUrl => (givenBy .ok v).map fun x => { o with pairingUrl := x }
  | .timeout =>
    (givenBy (readFraction k) v).map fun x => { o with timeout := x }
  | .register =>
    (givenBy .ok v).map fun x => { o with register := o.register ++ [x] }
  | .journalOut =>
    (givenBy (fun v => .ok (Path.tidy v)) v).map fun x =>
      { o with journalOut := some x }
  | .webHost => (givenBy .ok v).map fun x => { o with webHost := x }
  | .webPort => (givenBy (readInteger k) v).map fun x => { o with webPort := x }
  | .servePairing => .ok { o with servePairing := true }
  | .help => .ok o

/-- What the options say so far, and the words that none accounts for. -/
structure Progress where
  options : Options := {}
  extra : List Text := []

/-- What a command line comes to: options, or a call for help. -/
inductive Command where
  | run (options : Options)
  | help

/-- What follows a short call for help in the same word: the same call
again and again. -/
def helpLetters : Text → Except UsageFault Unit
  | [] => .error (.superfluousValue .help [])
  | p :: r =>
    if p != .char 'h' then .error (.superfluousValue .help (p :: r))
    else if r.isEmpty then .ok ()
    else helpLetters r

/-- A call for help, with what follows in the same word. -/
def takeHelp (isShort : Bool) (value : Option Text) : Except UsageFault Unit :=
  match value with
  | none => .ok ()
  | some v =>
    if isShort then helpLetters v else .error (.superfluousValue .help v)

/-- Let the options take effect from left to right; nothing is left after
a call for help. -/
def takeEffect (p : Progress) : List Word → Except UsageFault (Option Progress)
  | [] => .ok (some p)
  | .plain t :: ws => takeEffect { p with extra := p.extra ++ [t] } ws
  | .unknown t :: ws => takeEffect { p with extra := p.extra ++ [t] } ws
  | .doubleDash :: ws =>
    takeEffect { p with extra := p.extra ++ [Text.ofString "--"] } ws
  | .option .help isShort value :: _ =>
    (takeHelp isShort value).map fun _ => none
  | .option .servePairing _ value :: ws =>
    match value with
    | some v => .error (.superfluousValue .servePairing v)
    | none =>
      takeEffect
        { p with options := { p.options with servePairing := true } } ws
  | .option k _ (some v) :: ws => do
    let options ← setValue p.options k v
    takeEffect { p with options } ws
  | .option k _ none :: .plain v :: ws => do
    let options ← setValue p.options k v
    takeEffect { p with options } ws
  | .option k _ none :: _ => .error (.missingValue k)

/-- What a command line asks for. -/
def Command.ofWords (argv : List Text) : Except UsageFault Command := do
  let words ← classifyAll argv
  match ← takeEffect {} words with
  | none => .ok .help
  | some p =>
    if p.options.uniqueId.isNone then
      .error (.missingOptions (Key.all.filter Key.isRequired))
    else if !p.extra.isEmpty then .error (.unrecognized p.extra)
    else .ok (.run p.options)

end DevicePairing.Launch
