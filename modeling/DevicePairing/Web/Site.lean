/-
The server of a pad.

The server owns a pad and turns requests into its events. Where there is
a journal, every finished submission is written to it before the request
that made it is answered; where there is a registry, the pairing endpoint
is served too. A fault in serving a request is answered as such and costs
nothing else; only an interrupt is handed on.
-/
import DevicePairing.Journal.Writer
import DevicePairing.Pad.Event
import DevicePairing.Web.Page
import DevicePairing.Web.Pairing
import DevicePairing.Web.Route

namespace DevicePairing.Web

/-- A server: its pad, its registry and its journal if it has them, the
store that the journal is in, the next reading of the wall clock, and the
readings after that one. -/
structure Site where
  pad : Pad
  waiting : Option Waiting := none
  journal : Option Journal.Writer := none
  store : Store := {}
  clock : Json
  later : Nat → Json := fun _ => clock

namespace Site

-- ============================================================= cells

/-- The index that a document names: a whole number below the number of
cells. -/
def index? (p : Pad) (document : Option Json) : Option Nat :=
  match document.bind fun v => v.field? "index" with
  | some (.int n) => if 0 ≤ n ∧ n < p.cellCount then some n.toNat else none
  | _ => none

/-- The answer to a document that names no cell. -/
def badIndex (p : Pad) : Response :=
  .document 400
    (.obj [("error",
      .str ("index must be 0-" ++ Text.ofInt ((p.cellCount : Int) - 1)))])

/-- What was typed, according to a document. -/
def typed (document : Option Json) : Text :=
  match document.bind fun v => v.field? "value" with
  | some v => v.text
  | none => []

/-- The answer that shows a pad. -/
def shown (p : Pad) : Response := .document 200 (.obj p.snapshot.fields)

/-- Serve an input to a cell. -/
def serveCell (s : Site) (r : Incoming) : Except Fault (Response × Pad) := do
  let document ← r.document?
  match index? s.pad document with
  | none => .ok (badIndex s.pad, s.pad)
  | some i =>
    let (_, p) ← s.pad.onInput (.int i) (.str (typed document))
    .ok (shown p, p)

/-- Serve a focus event. -/
def serveFocus (s : Site) (r : Incoming) : Except Fault (Response × Pad) := do
  let document ← r.document?
  match index? s.pad document with
  | none => .ok (badIndex s.pad, s.pad)
  | some i =>
    let p ← s.pad.onFocus (.int i)
    .ok (shown p, p)

-- ======================================================== submissions

/-- The answer to a submission. -/
def submissionResponse (p : Pad) (outcome : Option Outcome) : Response :=
  let more : List (Text × Json) :=
    [("submitted", .bool outcome.isSome),
      ("outcome",
        match outcome with | some o => .obj o.fields | none => .null)]
  .document 200 (.obj (p.snapshot.fields ++ more))

/-- The line printed for an attempt that was written. -/
def savedLine (id : Int) (o : Outcome) : Text :=
  "[Journal] Saved attempt id=" ++ Text.ofInt id ++ " result="
    ++ Text.ofString o.result.name

/-- The server after the wall clock was read and something was written. -/
def afterWriting (s : Site) (w : Journal.Writer) (store : Store) : Site :=
  { s with
    journal := some w
    store
    clock := s.later 0
    later := fun n => s.later (n + 1) }

/-- Write an outcome to the journal, if there is one; the record is stamped
with the next reading of the wall clock. -/
def record (s : Site) (o : Outcome) : Logged (Except Fault Unit) × Site :=
  match s.journal with
  | none => (⟨.ok (), []⟩, s)
  | some w =>
    match w.append s.store s.pad.uniqueId o.report s.clock with
    | (.ok id, w, store) =>
      (⟨.ok (), [savedLine id o]⟩, s.afterWriting w store)
    | (.error f, w, store) => (⟨.error f, []⟩, s.afterWriting w store)

/-- The end of a submission that the pad is done with. -/
def concludeSubmit (s : Site) (result : Except Fault (Option Outcome)) :
    Logged (Except Fault Response) × Site :=
  match result with
  | .error f => (⟨.error f, []⟩, s)
  | .ok none => (⟨.ok (submissionResponse s.pad none), []⟩, s)
  | .ok (some o) =>
    match s.record o with
    | (⟨.ok (), log⟩, s) => (⟨.ok (submissionResponse s.pad (some o)), log⟩, s)
    | (⟨.error f, log⟩, s) => (⟨.error f, log⟩, s)

/-- The site with its journal closed. -/
def closeJournal (s : Site) : Site :=
  match s.journal with
  | none => s
  | some w =>
    let (w, store) := w.close s.store
    { s with journal := some w, store }

-- ============================================================ service

/-- A fault as the answer that it costs; an interrupt is handed on. -/
def shield (result : Except Fault Response) : Except Fault Response :=
  match result with
  | .ok r => .ok r
  | .error f =>
    match f.family with
    | .interrupt => .error f
    | _ => .ok (.bare 500)

/-- Serve a request to any route but the one for submissions. -/
def serve (s : Site) (route : Route) (r : Incoming) :
    Logged (Except Fault Response) × Site :=
  match route with
  | .page => (⟨.ok (.page (page s.pad.cellCount)), []⟩, s)
  | .cell =>
    match s.serveCell r with
    | .ok (response, p) => (⟨.ok response, []⟩, { s with pad := p })
    | .error f => (⟨.error f, []⟩, s)
  | .focus =>
    match s.serveFocus r with
    | .ok (response, p) => (⟨.ok response, []⟩, { s with pad := p })
    | .error f => (⟨.error f, []⟩, s)
  | .status => (⟨.ok (shown s.pad), []⟩, s)
  | .submitPin =>
    match s.waiting with
    | some w =>
      let (⟨response, log⟩, w) := takePin w r.parameters
      (⟨.ok response, log⟩, { s with waiting := some w })
    | none => (⟨.ok (.bare 404), []⟩, s)
  | .unpair =>
    match s.waiting with
    | some w =>
      let (⟨response, log⟩, w) := forget w r.parameters
      (⟨.ok response, log⟩, { s with waiting := some w })
    | none => (⟨.ok (.bare 404), []⟩, s)
  | .submit | .asset => (⟨.ok (.bare 404), []⟩, s)

/-- The beginning of a submission. -/
def startSubmit (s : Site) (now : Int) :
    Logged (Opening Response Pad.Flight) × Site :=
  match s.pad.startSubmit now with
  | (⟨.waiting request flight, log⟩, p) =>
    (⟨.waiting request flight, log⟩, { s with pad := p })
  | (⟨.done result, log⟩, p) =>
    let (⟨response, log'⟩, s) := { s with pad := p }.concludeSubmit result
    (⟨.done (shield response), log ++ log'⟩, s)

/-- The beginning of a request. -/
def start (now : Int) (r : Incoming) (s : Site) :
    Logged (Opening Response Pad.Flight) × Site :=
  let atOnce := fun response : Response => (⟨.done (.ok response), []⟩, s)
  match r.target s.waiting.isSome with
  | .nowhere => atOnce (.bare 404)
  | .otherPath => atOnce (.bare 308)
  | .otherMethod route => atOnce { status := 405, allow := route.methods }
  | .methods route =>
    atOnce
      { status := 200, contentType := some "text/html; charset=utf-8",
        allow := route.methods }
  | .route .submit => s.startSubmit now
  | .route route =>
    let (⟨result, log⟩, s) := s.serve route r
    let result := shield result
    let result :=
      if r.wantsNoBody then result.map Response.withoutBody else result
    (⟨.done result, log⟩, s)

/-- The end of a request that waited: it made a submission. -/
def finish (now : Int) (flight : Pad.Flight) (ending : Ending) (s : Site) :
    Logged (Except Fault Response) × Site :=
  let (⟨result, log⟩, p) := s.pad.finishSubmit now flight ending
  let (⟨response, log'⟩, s) := { s with pad := p }.concludeSubmit result
  (⟨shield response, log ++ log'⟩, s)

/-- The server as a service. -/
def service : Service Site Incoming Response Pad.Flight := ⟨start, finish⟩

end Site

end DevicePairing.Web
