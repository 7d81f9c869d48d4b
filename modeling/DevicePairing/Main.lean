/-
The program on a console.

Requests are typed one to a line: a method, a path with its query, and
the body if there is one. A submission that goes out is shown, and the
next line says how it ends: with a status, or with the word `timeout` or
`failed`. While it waits, that line may also be another request, which
is then served first. The store lasts as long as the program.

The wall clock is read anew for whatever may be written next.
-/
import DevicePairing.Launch.Program
import Mathlib.Tactic.DeprecateTo

namespace DevicePairing.Console

open Launch

-- =========================================================== decoding

/-- The text of a request without the blanks around it. -/
def words (line : String) : List Text :=
  (Text.pieces (.char ' ') (Text.ofString line.trimAscii.toString)).filter
    (!·.isEmpty)

/-- The request on a line. -/
def incoming? (line : String) : Option Web.Incoming :=
  match words line with
  | method :: target :: body =>
    let (path, query) := Text.cut (.char '?') target
    let body := (Text.join " " body).utf8
    some { method, path, query := query.getD [], body }
  | _ => none

/-- The end of a request on a line. -/
def ending? (line : String) : Option Ending :=
  match words line with
  | [w] =>
    if w = Text.ofString "timeout" then some (.fault ⟨.timeout, w⟩)
    else if w = Text.ofString "failed" then some (.fault ⟨.connection, w⟩)
    else (Numeral.integer w).toOption.map .status
  | _ => none

-- =========================================================== encoding

/-- A text as a string; a surrogate is shown as a question mark. -/
def string (t : Text) : String :=
  String.ofList (t.map fun | .char c => c | .surrogate _ => '?')

/-- Print lines. -/
def printLines (ls : List Text) : IO Unit :=
  ls.forM fun l => IO.println (string l)

/-- Print what a request came to. -/
def printResponse (r : Except Fault Web.Response) : IO Unit :=
  match r with
  | .ok r => IO.println (string (Text.ofNat r.status ++ " " ++ r.body.text))
  | .error f => IO.println (string f.message)

/-- Print a request that goes out. -/
def printRequest (r : Request) : IO Unit :=
  IO.println (string ("GET " ++ r.url))

-- ============================================================= clock

/-- A reading of the wall clock, in seconds. -/
def wallClock : IO Json := do
  let nanoseconds :=
    (← Std.Time.Timestamp.now).toNanosecondsSinceUnixEpoch.toInt
  return .float (.ofRatio (decide (nanoseconds < 0)) nanoseconds.natAbs
    1000000000)

/-- A server with a new reading of the wall clock. -/
def onTime (s : Web.Site) : IO Web.Site := do
  let clock ← wallClock
  return { s with clock, later := fun _ => clock }

-- ============================================================ serving

mutual

/-- Serve one request. -/
partial def serveOne (input : IO.FS.Stream) (s : Web.Site) (r : Web.Incoming) :
    IO Web.Site := do
  match Web.Site.service.start (← IO.monoNanosNow) r (← onTime s) with
  | (⟨.done result, log⟩, s) =>
    printLines log
    printResponse result
    return s
  | (⟨.waiting request flight, log⟩, s) =>
    printLines log
    printRequest request
    awaitEnd input s flight

/-- Wait for the end of a request, serving others meanwhile. -/
partial def awaitEnd (input : IO.FS.Stream) (s : Web.Site)
    (flight : Pad.Flight) : IO Web.Site := do
  let line ← input.getLine
  let ending :=
    if line.isEmpty then some (.fault ⟨.connection, "end of input"⟩)
    else ending? line
  match ending, incoming? line with
  | some ending, _ =>
    let now ← IO.monoNanosNow
    let (⟨result, log⟩, s) :=
      Web.Site.service.finish now flight ending (← onTime s)
    printLines log
    printResponse result
    return s
  | none, some r =>
    let s ← serveOne input s r
    awaitEnd input s flight
  | none, none => awaitEnd input s flight

end

/-- Serve requests until the input ends. -/
partial def serve (input : IO.FS.Stream) (s : Web.Site) : IO Web.Site := do
  let line ← input.getLine
  if line.isEmpty then return s
  match incoming? line with
  | some r => serve input (← serveOne input s r)
  | none => serve input s

/-- Launch the program and serve it. -/
def run (args : List String) : IO UInt32 := do
  let clock ← wallClock
  let launched := launch "pin-pairing-pad" (args.map Text.ofString) {}
    { environment := {}, clock, later := fun _ => clock }
  printLines launched.log
  IO.eprint (string launched.errors)
  match launched.result with
  | .error f =>
    if f.kind = .exit then return if f.message = Text.ofString "0" then 0 else 2
    IO.eprintln (string f.message)
    return 1
  | .ok p =>
    let _ ← serve (← IO.getStdin) p.site
    printLines [shutdownLine]
    return 0

end DevicePairing.Console

/-- The command line. -/
def main (args : List String) : IO UInt32 := DevicePairing.Console.run args
