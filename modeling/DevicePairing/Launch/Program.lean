/-
The program: from the command line to the end of serving.

The pad is made first, so that nothing is touched if there can be none;
then the registry, then the journal. However serving ends, the journal is
closed, and the end of serving is the end of the program.
-/
import DevicePairing.Launch.Usage
import DevicePairing.Web.Site

namespace DevicePairing.Launch

/-- A program that is ready to serve. -/
structure Program where
  site : Web.Site
  host : Json
  port : Json

/-- What came of the command line: the lines printed, what was printed
about errors, and a program or the fault that ended it; and the store. -/
structure Launched where
  log : List Text
  errors : Text
  result : Except Fault Program
  store : Store

/-- The end of a program with a status. -/
def exit (status : Nat) : Fault := ⟨.exit, Text.ofNat status⟩

/-- The devices that the pairing endpoint waits for: the registered ones,
or the device of the pad if there is none. -/
def awaited (o : Options) (uniqueId : Given Text) : List Json :=
  (if o.register.isEmpty then [uniqueId] else o.register).map
    (Given.setting .str)

/-- The registry, if there is to be one, and the lines about it. -/
def makeRegistry (o : Options) (uniqueId : Given Text) :
    Logged (Except Fault (Option Web.Waiting)) :=
  if o.servePairing then
    let ⟨w, log⟩ := Web.awaitAll {} (awaited o uniqueId)
    ⟨w.map some, log⟩
  else ⟨.ok none, []⟩

/-- The fault of a journal without a directory. -/
def noDirectory : Fault :=
  ⟨.type, "expected str, bytes or os.PathLike object, not list"⟩

/-- The journal, if there is to be one, and the lines about it. -/
def makeJournal (o : Options) (store : Store) (clock : Json) :
    Logged (Except Fault (Option Journal.Writer)) × Store :=
  match o.journalOut with
  | none => (⟨.ok none, []⟩, store)
  | some .nothing => (⟨.error noDirectory, []⟩, store)
  | some (.value directory) =>
    match Journal.openAt store directory clock with
    | (⟨.error f, log⟩, store) => (⟨.error f, log⟩, store)
    | (⟨.ok w, log⟩, store) =>
      (⟨.ok (some w), log ++ ["[Journal] Writing to " ++ directory]⟩, store)

/-- The lines printed when serving begins. -/
def servingLines (host port uniqueId : Json) (c : Client) : List Text :=
  ["[Web] Serving on http://" ++ host.text ++ ":" ++ port.text,
    "[Pairing] PINs for " ++ uniqueId.text ++ " go to " ++ c.endpoint]

/-- The line printed when serving has ended. -/
def shutdownLine : Text := "[Shutdown] Closing journal…"

/-- The client and the pad that options ask for. -/
def makePad (o : Options) (uniqueId : Given Text)
    (environment : Environment) : Except Fault (Client × Pad) := do
  let client ← Client.ofAddress (o.pairingUrl.setting .str)
    (o.timeout.setting .float) environment
  let pad ← Pad.open? (uniqueId.setting .str) client (o.cells.setting .int)
  .ok (client, pad)

/-- What a program finds where it is launched: what its client does, and the
wall clock with its next reading and those after that one. -/
structure Surroundings where
  environment : Environment
  clock : Json
  later : Nat → Json

/-- Make a program of options. Opening the journal takes one reading of the
wall clock, whether there is a journal or not. -/
def prepare (o : Options) (uniqueId : Given Text) (store : Store)
    (around : Surroundings) : Launched :=
  match makePad o uniqueId around.environment with
  | .error f => ⟨[], [], .error f, store⟩
  | .ok (client, pad) =>
    match makeRegistry o uniqueId with
    | ⟨.error f, log⟩ => ⟨log, [], .error f, store⟩
    | ⟨.ok waiting, log⟩ =>
      match makeJournal o store around.clock with
      | (⟨.error f, log'⟩, store) => ⟨log ++ log', [], .error f, store⟩
      | (⟨.ok journal, log'⟩, store) =>
        let host := o.webHost.setting .str
        let port := o.webPort.setting .int
        let site : Web.Site := {
          pad, waiting, journal, store
          clock := around.later 0
          later := fun n => around.later (n + 1) }
        ⟨log ++ log' ++ servingLines host port pad.uniqueId client, [],
          .ok ⟨site, host, port⟩, store⟩

/-- Launch a program with a command line. -/
def launch (program : String) (argv : List Text) (store : Store)
    (around : Surroundings) : Launched :=
  match Command.ofWords argv with
  | .error f => ⟨[], f.text program, .error (exit 2), store⟩
  | .ok .help =>
    ⟨(helpLines program).map Text.ofString, [], .error (exit 0), store⟩
  | .ok (.run o) =>
    match o.uniqueId with
    | none => ⟨[], [], .error (exit 2), store⟩
    | some uniqueId => prepare o uniqueId store around

-- ============================================================ serving

/-- A run of the program: what was printed outside of serving, the program
that was served and the answers that it gave, the store at the end, and
the fault that the run ended with. -/
structure Run where
  log : List Text
  errors : Text
  served : Option (Program × List (Answer Web.Site Web.Response))
  store : Store
  fault : Option Fault

/-- Launch a program and serve it; `ending` is how serving ends. The wall
clock stands still unless there are readings after the next one. -/
def run (program : String) (argv : List Text) (store : Store) (clock : Json)
    (steps : List (Step Web.Incoming)) (ending : Option Fault)
    (environment : Environment := {}) (later : Nat → Json := fun _ => clock) :
    Run :=
  let launched := launch program argv store { environment, clock, later }
  match launched.result with
  | .error f => ⟨launched.log, launched.errors, none, launched.store, some f⟩
  | .ok p =>
    let (answers, _, site) := Web.Site.service.runSteps 0 p.site steps
    ⟨launched.log ++ [shutdownLine], launched.errors, some (p, answers),
      site.closeJournal.store, ending⟩

end DevicePairing.Launch
