/-
The help text and the usage lines, laid out for a screen of eighty columns.
-/
import DevicePairing.Launch.Options

namespace DevicePairing.Launch

/-- The columns in use; two of the eighty stay free. -/
def screenWidth : Nat := 78

/-- The column at which the texts about options begin. -/
def helpColumn : Nat := 24

/-- Blanks. -/
def blanks (n : Nat) : String := String.ofList (List.replicate n ' ')

/-- Words filled into lines: a line takes the next word if the words and
the blanks between them stay within `width`. `line` is the line begun,
its words in reverse order, and `used` the columns that it takes. -/
def fill (width start : Nat) (line : List String) (used : Nat) :
    List String → List (List String)
  | [] => if line.isEmpty then [] else [line.reverse]
  | w :: ws =>
    if !line.isEmpty && width < used + 1 + w.length then
      line.reverse :: fill width start [w] (start + w.length) ws
    else
      fill width start (w :: line)
        (if line.isEmpty then start + w.length else used + 1 + w.length) ws

/-- How an option is written, with its value if it takes one. -/
def Key.forms (k : Key) : List String :=
  k.spellings.map fun s =>
    match k.placeholder? with | some p => s ++ " " ++ p | none => s

/-- The words of the usage lines: an option that may be left out is one
word in brackets. -/
def usageWords (k : Key) : List String :=
  match k.forms with
  | [] => []
  | form :: _ => if k.isRequired then form.splitOn " " else ["[" ++ form ++ "]"]

/-- The usage lines of a program. -/
def usageLines (program : String) : List String :=
  let lead := "usage: "
  let indent := lead.length + program.length + 1
  let lines :=
    fill screenWidth indent [program] (lead.length + program.length)
      (Key.all.flatMap usageWords)
  match lines.map (String.intercalate " ") with
  | [] => []
  | first :: rest => (lead ++ first) :: rest.map (blanks indent ++ ·)

/-- The text about an option. -/
def Key.about : Key → String
  | .help => "show this help message and exit"
  | .uniqueId => "Device identifier sent with the PIN (e.g., 0123456789ABCDEF)"
  | .cells => "Number of PIN digits (default: 4)"
  | .pairingUrl =>
    "Base URL of the pairing service (default: http://localhost:5000)"
  | .timeout => "Pairing request timeout in seconds (default: 5.0)"
  | .servePairing => "Also serve /submit-pin and /unpair from this app"
  | .register =>
    "Device identifier the local pairing endpoint waits for (repeatable)"
  | .journalOut => "Optional: directory to write the attempt journal"
  | .webHost => "Web server host (default: 0.0.0.0)"
  | .webPort => "Web server port (default: 5000)"

/-- The lines about an option: its forms and its text side by side, or one
below the other where the forms are long. -/
def optionLines (k : Key) : List String :=
  let head := "  " ++ String.intercalate ", " k.forms
  let about :=
    (fill (screenWidth - helpColumn) 0 [] 0 (k.about.splitOn " ")).map
      (String.intercalate " ")
  if helpColumn - 2 < head.length then
    head :: about.map (blanks helpColumn ++ ·)
  else
    match about with
    | [] => [head]
    | first :: rest =>
      (head ++ blanks (helpColumn - head.length) ++ first)
        :: rest.map (blanks helpColumn ++ ·)

/-- The help text, line by line. -/
def helpLines (program : String) : List String :=
  usageLines program ++ ["", "Device pairing PIN pad (Flask)", "", "options:"]
    ++ Key.all.flatMap optionLines

/-- Lines as text, each with its end. -/
def endedLines (ls : List Text) : Text := ls.flatMap (· ++ Text.ofString "\n")

/-- The help text as it is printed. -/
def helpText (program : String) : Text :=
  endedLines ((helpLines program).map Text.ofString)

/-- What is printed about a command line that is refused. -/
def UsageFault.text (program : String) (f : UsageFault) : Text :=
  endedLines ((usageLines program).map Text.ofString
    ++ [program ++ (": error: " ++ f.message)])

end DevicePairing.Launch
