/-
What requests are to the pad.

To the pad a request is one event or none. A request to a cell is an
input if its body is an object whose `index` is a whole number that names
a cell, and a request for the focus is a focus event on the same
condition; a submission is a submission; anything else is nothing. So a
server is followed by a pad that is given the events alone: served with
any requests, also with some while a submission is under way, the pad of
the server is in the state of that pad.

The server looks at an index before the pad does, and the two must agree:
if the server let an index through that the pad refuses, the request
would be a fault, and if it held one back, an event would be lost. They
agree on every value (`index?_eq_some`).

Only a body that is nested too deep is neither taken nor refused. It is
no document that could be told from others, and it costs a fault instead
of the answer for a bad index; the pad stays as it is even then.
-/
import DevicePairing.Proofs.Pad.Service
import DevicePairing.Web.Site

namespace DevicePairing.Web

open Pad (Event Reaction Flight)

-- ========================================================== vocabulary

/-- The cell that a document names among `n`, and the fields of the
document: it is an object whose `index` is a whole number below `n`. -/
def named? (n : Nat) : Option Json → Option (Nat × List (Text × Json))
  | some (.obj fields) =>
    match Json.lookup "index" fields with
    | some (.int i) => if 0 ≤ i ∧ i < n then some (i.toNat, fields) else none
    | _ => none
  | _ => none

/-- The text of the `value` among fields, empty where there is none. -/
def valueText (fields : List (Text × Json)) : Text :=
  match Json.lookup "value" fields with
  | some v => v.text
  | none => []

namespace Incoming

/-- The cell that the body of a request names, with the fields of the body. -/
def cell? (r : Incoming) (n : Nat) : Option (Nat × List (Text × Json)) :=
  match r.document? with
  | .ok document => named? n document
  | .error _ => none

/-- The event that a request is to a pad of `n` cells, if it is one. -/
def event? (r : Incoming) (pairing : Bool) (n : Nat) : Option Event :=
  match r.target pairing with
  | .route .cell =>
    (r.cell? n).map fun (i, fields) => .input (.int i) (.str (valueText fields))
  | .route .focus => (r.cell? n).map fun (i, _) => .focus (.int i)
  | .route .submit => some .submit
  | _ => none

end Incoming

namespace Incoming

/-- The only fault that a body can be is that of its nesting. -/
theorem kind_of_document? {r : Incoming} {f : Fault}
    (h : r.document? = .error f) : f.kind = .nesting := by
  unfold document? at h
  split at h
  · cases h
  · split at h
    · cases h
    · cases h
      rfl
    · cases h

end Incoming

mutual

/-- A scripted request as a step of the pad, which looks on if the request
is no event. -/
def padStep (pairing : Bool) (n : Nat) : Step Incoming → Step Event
  | ⟨r, delay, during, ending⟩ =>
    ⟨(r.event? pairing n).getD .observe, delay, padSteps pairing n during,
      ending⟩

/-- Scripted requests as steps of the pad. -/
def padSteps (pairing : Bool) (n : Nat) :
    List (Step Incoming) → List (Step Event)
  | [] => []
  | step :: steps => padStep pairing n step :: padSteps pairing n steps

end

mutual

/-- A scripted request as a step of the pad, if it is an event. -/
def eventStep (pairing : Bool) (n : Nat) : Step Incoming → List (Step Event)
  | ⟨r, delay, during, ending⟩ =>
    match r.event? pairing n with
    | some e => [⟨e, delay, eventSteps pairing n during, ending⟩]
    | none => []

/-- The events among scripted requests, as steps of the pad. -/
def eventSteps (pairing : Bool) (n : Nat) :
    List (Step Incoming) → List (Step Event)
  | [] => []
  | step :: steps => eventStep pairing n step ++ eventSteps pairing n steps

end

namespace Site

-- ============================================================= indices

/-- The server takes an index exactly if the pad does. -/
theorem index?_eq_some {p : Pad} {fields : List (Text × Json)} {i : Nat} :
    index? p (some (.obj fields)) = some i
      ↔ ∃ v, Json.lookup "index" fields = some v ∧ p.index? v = .ok i := by
  simp only [index?, Option.bind_some, Json.field?, Pad.index?_eq_ok]
  cases Json.lookup "index" fields with
  | none => simp
  | some v =>
      cases v with
      | int m =>
          simp only [Option.ite_none_right_eq_some, Option.some.injEq,
            exists_eq_left', Json.int.injEq]
          omega
      | _ => simp

/-- What the server finds in a document is what the document names. -/
theorem index?_eq_named? (p : Pad) (document : Option Json) :
    index? p document = (named? p.cellCount document).map (·.1) := by
  unfold index? named?
  cases document with
  | none => rfl
  | some v =>
      cases v with
      | obj fields =>
          simp only [Option.bind_some, Json.field?]
          cases Json.lookup "index" fields with
          | none => rfl
          | some v =>
              cases v with
              | int m => dsimp only; split <;> rfl
              | _ => rfl
      | _ => rfl

theorem typed_eq_valueText {n i : Nat} {document : Option Json}
    {fields : List (Text × Json)} (h : named? n document = some (i, fields)) :
    typed document = valueText fields ∧ i < n := by
  unfold named? at h
  split at h
  · split at h
    · split at h
      · cases h
        exact ⟨rfl, by omega⟩
      · cases h
    · cases h
  · cases h

-- =============================================================== cells

/-- An input that names a cell is accepted, whatever was typed. -/
theorem start_input {p : Pad} {i : Nat} (hi : i < p.cellCount) (t : Text)
    (now : Int) :
    p.accepts (.input (.int i) (.str t)) = true
      ∧ ∃ c, p.onInput (.int i) (.str t)
        = .ok (c, (Pad.start now (.input (.int i) (.str t)) p).2) := by
  have hindex : p.index? (.int i) = .ok i := Pad.index?_eq_ok.mpr ⟨rfl, hi⟩
  obtain ⟨c, hc⟩ : ∃ c, Cell.ofInput (.str t) = .ok c := by
    unfold Cell.ofInput
    split <;> exact ⟨_, rfl⟩
  have hok : p.onInput (.int i) (.str t) = .ok (c, p.store i c) :=
    Pad.onInput_eq_ok.mpr ⟨i, hindex, hc, rfl⟩
  refine ⟨by simp [Pad.accepts, hindex, hc, Except.toBool], c, ?_⟩
  simp only [Pad.start, hok]

/-- So is a focus event. -/
theorem start_focus {p : Pad} {i : Nat} (hi : i < p.cellCount) (now : Int) :
    p.accepts (.focus (.int i)) = true
      ∧ p.onFocus (.int i) = .ok (Pad.start now (.focus (.int i)) p).2 := by
  have hindex : p.index? (.int i) = .ok i := Pad.index?_eq_ok.mpr ⟨rfl, hi⟩
  have hok := Pad.onFocus_eq_ok.mpr ⟨i, hindex, rfl⟩
  refine ⟨by simp [Pad.accepts, hindex, Except.toBool], ?_⟩
  simp only [Pad.start, hok]

-- ============================================================== routes

/-- The routes of the pad have one path each. -/
theorem ofPath?_eq_some (pairing : Bool) {name : String} {route : Route}
    (h : (name, route) ∈ Route.padPaths) {path : Text} :
    Route.ofPath? pairing path = some route ↔ path = Text.ofString name := by
  have hunique : ∀ entry ∈ Route.padPaths,
      ∀ other ∈ Route.padPaths ++ Route.pairingPaths,
        other.2 = entry.2 → other.1 = entry.1 := by decide
  have hfound : ∀ pairing : Bool, ∀ entry ∈ Route.padPaths,
      Route.ofPath? pairing (Text.ofString entry.1) = some entry.2
        ∧ entry.2 ≠ .asset := by decide
  constructor
  · intro hpath
    have hknown : ∀ entry ∈ (if pairing
          then Route.padPaths ++ Route.pairingPaths else Route.padPaths),
        entry ∈ Route.padPaths ++ Route.pairingPaths := by
      intro entry hentry
      cases pairing with
      | true => exact hentry
      | false => exact List.mem_append_left _ hentry
    unfold Route.ofPath? at hpath
    dsimp only at hpath
    generalize (if pairing then Route.padPaths ++ Route.pairingPaths
      else Route.padPaths) = known at hpath hknown
    split at hpath
    · rename_i other route' hfind
      obtain rfl := Option.some.inj hpath
      have hmem := hknown _ (List.mem_of_find?_eq_some hfind)
      obtain rfl : other = name := hunique _ h _ hmem rfl
      have hname := List.find?_some hfind
      exact (of_decide_eq_true hname).symm
    · split at hpath
      · obtain rfl := Option.some.inj hpath
        exact absurd rfl (hfound pairing _ h).2
      · cases hpath
  · rintro rfl
    exact (hfound pairing _ h).1

/-- A request goes to a route of the pad by its method and its path. -/
theorem Target.of_eq_route {pairing : Bool} {name : String} {route : Route}
    (h : (name, route) ∈ Route.padPaths) {method path : Text} :
    Target.of pairing method path = .route route
      ↔ route.takes method = true ∧ method ≠ Text.ofString "OPTIONS"
        ∧ path ≠ [] ∧ rooted path = Text.ofString name := by
  rw [← ofPath?_eq_some pairing h]
  cases path with
  | nil =>
      simp only [Target.of, List.isEmpty_nil, if_true, ne_eq, not_true_eq_false,
        false_and, and_false, iff_false]
      split <;> exact Target.noConfusion
  | cons c path =>
      simp only [Target.of, List.isEmpty_cons, Bool.false_eq_true, if_false,
        Target.ofRooted, ne_eq, reduceCtorEq, not_false_eq_true, true_and]
      cases hroute : Route.ofPath? pairing (rooted (c :: path)) with
      | none =>
          simp only [reduceCtorEq, and_false, iff_false]
          split
          · split <;> exact Target.noConfusion
          · exact Target.noConfusion
      | some other =>
          rw [Option.some.injEq]
          dsimp only
          by_cases htakes : other.takes method = true
          · rw [htakes, Bool.not_true, if_neg Bool.false_ne_true]
            by_cases hoptions : method = Text.ofString "OPTIONS"
            · simp only [hoptions, if_true, reduceCtorEq, not_true_eq_false,
                false_and, and_false]
            · simp only [hoptions, if_false, Target.route.injEq,
                not_false_eq_true, true_and]
              constructor
              · rintro rfl
                exact ⟨htakes, rfl⟩
              · exact And.right
          · simp only [htakes, Bool.not_false, if_true, reduceCtorEq, false_iff]
            rintro ⟨h, -, rfl⟩
            exact htakes h

/-- The answer to an input or a focus event has its body. -/
theorem wantsNoBody_eq_false {r : Incoming} {pairing : Bool} {route : Route}
    (h : r.target pairing = .route route)
    (hroute : route = .cell ∨ route = .focus) : r.wantsNoBody = false := by
  have htakes : route.takes (r.method.map CodePoint.toUpper) = true := by
    rcases hroute with rfl | rfl
    · exact ((Target.of_eq_route
        (show ("/api/cell", Route.cell) ∈ Route.padPaths by decide)).mp h).1
    · exact ((Target.of_eq_route
        (show ("/api/focus", Route.focus) ∈ Route.padPaths by decide)).mp h).1
  rw [← Bool.not_eq_true]
  intro hhead
  have hmethod : r.method = Text.ofString "HEAD" := by
    simpa [Incoming.wantsNoBody] using hhead
  rw [hmethod] at htakes
  rcases hroute with rfl | rfl
  · exact absurd htakes (by decide)
  · exact absurd htakes (by decide)

/-- A route that takes a method besides the one that asks for its methods
is gone to by that method alone. -/
theorem target_of_post {name : String} {route : Route}
    (h : (name, route) ∈ Route.padPaths)
    (hmethods : route.methods = ["OPTIONS", "POST"]) (r : Incoming)
    (pairing : Bool) :
    r.target pairing = .route route
      ↔ r.method.map CodePoint.toUpper = Text.ofString "POST"
        ∧ r.askedPath ≠ [] ∧ rooted r.askedPath = Text.ofString name := by
  rw [Incoming.target, Target.of_eq_route h, ← and_assoc]
  have hpost : route.takes (r.method.map CodePoint.toUpper) = true
        ∧ r.method.map CodePoint.toUpper ≠ Text.ofString "OPTIONS"
      ↔ r.method.map CodePoint.toUpper = Text.ofString "POST" := by
    rw [Route.takes, hmethods]
    simp only [List.any_cons, List.any_nil, Bool.or_false, Bool.or_eq_true,
      decide_eq_true_eq]
    constructor
    · rintro ⟨hoptions | hpost, hne⟩
      · exact absurd hoptions.symm hne
      · exact hpost.symm
    · intro hpost
      rw [hpost]
      exact ⟨.inr rfl, by decide⟩
  rw [hpost]

variable {s : Site} {r : Incoming}

/-- A request to a cell or for the focus is answered at once. -/
theorem start_of_route {route : Route}
    (h : r.target s.waiting.isSome = .route route)
    (hroute : route = .cell ∨ route = .focus) (now : Int) :
    start now r s
      = (⟨.done (shield (s.serve route r).1.value), (s.serve route r).1.log⟩,
          (s.serve route r).2) := by
  have hbody := wantsNoBody_eq_false h hroute
  unfold start
  rcases hroute with rfl | rfl
  · simp only [h, hbody, Bool.false_eq_true, if_false]
  · simp only [h, hbody, Bool.false_eq_true, if_false]

/-- What a body names, as the server finds it. -/
theorem exists_of_cell? {p : Pad} {i : Nat} {fields : List (Text × Json)}
    (h : r.cell? p.cellCount = some (i, fields)) :
    ∃ document, r.document? = .ok document ∧ index? p document = some i
      ∧ typed document = valueText fields ∧ i < p.cellCount := by
  unfold Incoming.cell? at h
  split at h
  · rename_i document hdocument
    obtain ⟨htyped, hi⟩ := typed_eq_valueText h
    refine ⟨document, hdocument, ?_, htyped, hi⟩
    rw [index?_eq_named?, h]
    rfl
  · cases h

/-- A request that is an event of a cell is answered with what the pad
shows after the event. -/
theorem start_of_event {route : Route} {e : Event}
    (h : r.target s.waiting.isSome = .route route)
    (hroute : route = .cell ∨ route = .focus)
    (he : r.event? s.waiting.isSome s.pad.cellCount = some e) (now : Int) :
    s.pad.accepts e = true
      ∧ start now r s
        = (⟨.done (.ok (shown (Pad.start now e s.pad).2)), []⟩,
            { s with pad := (Pad.start now e s.pad).2 }) := by
  rw [start_of_route h hroute]
  rcases hroute with rfl | rfl
  · simp only [Incoming.event?, h, Option.map_eq_some_iff] at he
    obtain ⟨⟨i, fields⟩, hcell, rfl⟩ := he
    obtain ⟨document, hdocument, hindex, htyped, hi⟩ := exists_of_cell? hcell
    obtain ⟨haccepts, c, hok⟩ := start_input hi (valueText fields) now
    refine ⟨haccepts, ?_⟩
    simp only [serve, serveCell, hdocument, bind, Except.bind, hindex, htyped,
      hok]
    rfl
  · simp only [Incoming.event?, h, Option.map_eq_some_iff] at he
    obtain ⟨⟨i, fields⟩, hcell, rfl⟩ := he
    obtain ⟨document, hdocument, hindex, -, hi⟩ := exists_of_cell? hcell
    obtain ⟨haccepts, hok⟩ := start_focus hi now
    refine ⟨haccepts, ?_⟩
    simp only [serve, serveFocus, hdocument, bind, Except.bind, hindex, hok]
    rfl

/-- A request that names no cell is refused, or it is a fault if its body
is nested too deep; either way the server stays as it is. -/
theorem start_of_no_event {route : Route}
    (h : r.target s.waiting.isSome = .route route)
    (hroute : route = .cell ∨ route = .focus)
    (hcell : r.cell? s.pad.cellCount = none) (now : Int) :
    (∀ document, r.document? = .ok document →
        start now r s = (⟨.done (.ok (badIndex s.pad)), []⟩, s))
      ∧ ∀ f, r.document? = .error f →
        start now r s = (⟨.done (.ok (.bare 500)), []⟩, s) := by
  rw [start_of_route h hroute]
  constructor
  · intro document hdocument
    have hindex : index? s.pad document = none := by
      simp only [Incoming.cell?, hdocument] at hcell
      rw [index?_eq_named?, hcell]
      rfl
    rcases hroute with rfl | rfl
    · simp only [serve, serveCell, hdocument, bind, Except.bind, hindex]
      rfl
    · simp only [serve, serveFocus, hdocument, bind, Except.bind, hindex]
      rfl
  · intro f hf
    have hshield : shield (.error f) = .ok (.bare 500) := by
      have hfamily : f.family = .other := by
        rw [Fault.family, Incoming.kind_of_document? hf]
        rfl
      rw [shield, hfamily]
    rcases hroute with rfl | rfl
    · simp only [serve, serveCell, hf, bind, Except.bind, hshield]
    · simp only [serve, serveFocus, hf, bind, Except.bind, hshield]

-- ========================================================== submissions

@[simp] theorem afterWriting_pad (s : Site) (w : Journal.Writer)
    (store : Store) : (s.afterWriting w store).pad = s.pad := rfl

/-- Writing to the journal leaves the pad and the registry as they are. -/
theorem record_frame (s : Site) (o : Outcome) :
    (s.record o).2.pad = s.pad ∧ (s.record o).2.waiting = s.waiting := by
  unfold record
  split
  · exact ⟨rfl, rfl⟩
  · split <;> exact ⟨rfl, rfl⟩

theorem concludeSubmit_frame (s : Site)
    (result : Except Fault (Option Outcome)) :
    (s.concludeSubmit result).2.pad = s.pad
      ∧ (s.concludeSubmit result).2.waiting = s.waiting := by
  unfold concludeSubmit
  split
  · exact ⟨rfl, rfl⟩
  · exact ⟨rfl, rfl⟩
  · rename_i o
    obtain ⟨hpad, hwaiting⟩ := record_frame s o
    split
    · rename_i heq
      rw [heq] at hpad hwaiting
      exact ⟨hpad, hwaiting⟩
    · rename_i heq
      rw [heq] at hpad hwaiting
      exact ⟨hpad, hwaiting⟩

/-- Where there is a journal, an outcome is handed to its writer; the answer
reports it unless there is a fault. -/
theorem concludeSubmit_of_journal {s : Site} {w : Journal.Writer}
    (h : s.journal = some w) (o : Outcome) :
    let written := w.append s.store s.pad.uniqueId o.report s.clock
    (s.concludeSubmit (.ok (some o))).1.value
        = written.1.map (fun _ => submissionResponse s.pad (some o))
      ∧ (s.concludeSubmit (.ok (some o))).2
        = s.afterWriting written.2.1 written.2.2 := by
  rcases hwritten : w.append s.store s.pad.uniqueId o.report s.clock
    with ⟨_ | _, w', store⟩
  · simp only [concludeSubmit, record, h, hwritten, Except.map, and_self]
  · simp only [concludeSubmit, record, h, hwritten, Except.map,
      afterWriting_pad, and_self]

/-- The end of a submission is that of the pad. -/
theorem finish_frame (s : Site) (now : Int) (flight : Flight)
    (ending : Ending) :
    (finish now flight ending s).2.pad
        = (Pad.finish now flight ending s.pad).2
      ∧ (finish now flight ending s).2.waiting = s.waiting := by
  rcases hfinish : s.pad.finishSubmit now flight ending with ⟨⟨result, log⟩, p⟩
  simp only [finish, Pad.finish, hfinish]
  exact concludeSubmit_frame { s with pad := p } result

-- ============================================================ following

/-- A server that begins to serve a request as a pad begins with an event:
both are done and the server is left with that pad, or both wait for the
same request. -/
inductive Begins (s : Site) : Logged (Opening Response Flight) × Site →
    Logged (Opening Reaction Flight) × Pad → Prop
  | done {result : Except Fault Response} {result' : Except Fault Reaction}
      {log log' : List Text} {t : Site} {p : Pad} (hpad : t.pad = p)
      (hwaiting : t.waiting.isSome = s.waiting.isSome) :
      Begins s (⟨.done result, log⟩, t) (⟨.done result', log'⟩, p)
  | waiting {request : Request} {flight : Flight} {log log' : List Text}
      {t : Site} {p : Pad} (hpad : t.pad = p)
      (hwaiting : t.waiting.isSome = s.waiting.isSome) :
      Begins s (⟨.waiting request flight, log⟩, t)
        (⟨.waiting request flight, log'⟩, p)

theorem startSubmit_begins (s : Site) (now : Int) :
    Begins s (s.startSubmit now) (Pad.start now .submit s.pad) := by
  unfold startSubmit Pad.start
  rcases hstart : s.pad.startSubmit now with ⟨⟨opening, log⟩, p⟩
  cases opening with
  | waiting request flight => exact .waiting rfl rfl
  | done result =>
      obtain ⟨hpad, hwaiting⟩ := concludeSubmit_frame { s with pad := p } result
      exact .done hpad (congrArg Option.isSome hwaiting)

/-- A request that is an event begins as the event does. -/
theorem start_begins {e : Event}
    (he : r.event? s.waiting.isSome s.pad.cellCount = some e) (now : Int) :
    Begins s (start now r s) (Pad.start now e s.pad) := by
  cases htarget : r.target s.waiting.isSome with
  | route route =>
      have hdone (hroute : route = .cell ∨ route = .focus) :
          Begins s (start now r s) (Pad.start now e s.pad) := by
        obtain ⟨haccepts, hstart⟩ := start_of_event htarget hroute he now
        have hunsent : e = .submit → s.pad.refusal? ≠ none := by
          rintro rfl
          cases haccepts
        obtain ⟨result, log, hpad, -⟩ :=
          Scene.start_of_unsent (s := ⟨s.pad, [], []⟩) hunsent now
        rw [hstart, hpad]
        exact .done rfl rfl
      cases route with
      | cell => exact hdone (.inl rfl)
      | focus => exact hdone (.inr rfl)
      | submit =>
          simp only [Incoming.event?, htarget, Option.some.injEq] at he
          subst he
          simp only [start, htarget]
          exact startSubmit_begins s now
      | _ => simp [Incoming.event?, htarget] at he
  | _ => simp [Incoming.event?, htarget] at he

/-- A request that is no event is answered at once, and the pad is what it
was. -/
theorem start_of_none
    (he : r.event? s.waiting.isSome s.pad.cellCount = none) (now : Int) :
    ∃ result log t, start now r s = (⟨.done result, log⟩, t)
      ∧ t.pad = s.pad ∧ t.waiting.isSome = s.waiting.isSome := by
  cases htarget : r.target s.waiting.isSome with
  | route route =>
      have hrefused (hroute : route = .cell ∨ route = .focus)
          (hcell : r.cell? s.pad.cellCount = none) :
          ∃ result log t, start now r s = (⟨.done result, log⟩, t)
            ∧ t.pad = s.pad ∧ t.waiting.isSome = s.waiting.isSome := by
        obtain ⟨hbad, hdeep⟩ := start_of_no_event htarget hroute hcell now
        cases hdocument : r.document? with
        | ok document => exact ⟨_, _, _, hbad document hdocument, rfl, rfl⟩
        | error f => exact ⟨_, _, _, hdeep f hdocument, rfl, rfl⟩
      cases route with
      | cell =>
          simp only [Incoming.event?, htarget, Option.map_eq_none_iff] at he
          exact hrefused (.inl rfl) he
      | focus =>
          simp only [Incoming.event?, htarget, Option.map_eq_none_iff] at he
          exact hrefused (.inr rfl) he
      | submit => simp [Incoming.event?, htarget] at he
      | page | status | asset =>
          simp only [start, htarget, serve]
          exact ⟨_, _, _, rfl, rfl, rfl⟩
      | submitPin | unpair =>
          simp only [start, htarget, serve]
          cases hwaiting : s.waiting with
          | none => exact ⟨_, _, _, rfl, rfl, congrArg Option.isSome hwaiting⟩
          | some w => exact ⟨_, _, _, rfl, rfl, rfl⟩
  | _ =>
      simp only [start, htarget]
      exact ⟨_, _, _, rfl, rfl, rfl⟩

/-- What the server begins with, as a service. -/
theorem service_start (now : Int) (r : Incoming) (s : Site) :
    service.start now r s = start now r s := rfl

/-- A pad that follows a server of `n` cells. -/
structure Follows (pairing : Bool) (n : Nat) (s : Site) (p : Pad) : Prop where
  pad : s.pad = p
  waiting : s.waiting.isSome = pairing
  cells : p.cellCount = n

/-- Whatever is begun, a pad keeps the number of its cells and its device. -/
theorem frame_start (now : Int) (e : Event) (p : Pad) :
    (Pad.start now e p).2.cellCount = p.cellCount
      ∧ (Pad.start now e p).2.uniqueId = p.uniqueId := by
  rcases Scene.start_cases ⟨p, [], []⟩ now e with
    ⟨_, _, moves, hstart, -⟩ | ⟨_, _, -, -, -, hstart⟩
  · obtain ⟨hcells, -, hid⟩ := Scene.run_frame ⟨p, [], []⟩ moves
    rw [hstart]
    exact ⟨hcells, hid⟩
  · rw [hstart]
    exact ⟨rfl, rfl⟩

/-- And so it does when a submission is over. -/
theorem frame_finish (now : Int) (flight : Flight) (ending : Ending)
    (p : Pad) :
    (Pad.finish now flight ending p).2.cellCount = p.cellCount
      ∧ (Pad.finish now flight ending p).2.uniqueId = p.uniqueId := by
  let call : Call := ⟨p.submission, flight⟩
  obtain ⟨hpad, -⟩ := Scene.finish_eq_reply (s := ⟨p, [call], []⟩)
    (show _ = [] ++ [call] from rfl) now ending
  obtain ⟨hcells, -, hid⟩ := Scene.run_frame ⟨p, [call], []⟩
    [.reply ([] : List Call).length now ending]
  rw [← hpad]
  exact ⟨hcells, hid⟩

/-- A server keeps the number of its cells, and its registry if it has one. -/
theorem start_frame (now : Int) (r : Incoming) (s : Site) :
    (start now r s).2.pad.cellCount = s.pad.cellCount
      ∧ (start now r s).2.waiting.isSome = s.waiting.isSome := by
  cases he : r.event? s.waiting.isSome s.pad.cellCount with
  | none =>
      obtain ⟨result, log, t, hstart, hpad, hwaiting⟩ := start_of_none he now
      rw [hstart]
      exact ⟨congrArg Pad.cellCount hpad, hwaiting⟩
  | some e =>
      have hcells := (frame_start now e s.pad).1
      have hbegins := start_begins he now
      generalize start now r s = begun at hbegins
      generalize Pad.start now e s.pad = begun' at hbegins hcells
      cases hbegins with
      | done hpad hwaiting | waiting hpad hwaiting =>
          exact ⟨(congrArg Pad.cellCount hpad).trans hcells, hwaiting⟩

mutual

/-- A step keeps a server and its pad together. -/
theorem runStep_follows {pairing : Bool} {n : Nat} {s : Site} {p : Pad}
    (h : Follows pairing n s p) (now : Int) : ∀ step : Step Incoming,
      let server := service.runStep now s step
      let pad := Pad.service.runStep now p (padStep pairing n step)
      server.1.states.map Site.pad = pad.1.states
        ∧ server.2.1 = pad.2.1 ∧ Follows pairing n server.2.2 pad.2.2
  | ⟨r, delay, during, ending⟩ => by
      obtain ⟨rfl, rfl, rfl⟩ := h
      cases he : r.event? s.waiting.isSome s.pad.cellCount with
      | none =>
          obtain ⟨result, log, t, hstart, hpad, hwaiting⟩ :=
            start_of_none he now
          have hobserve : Pad.service.start now .observe s.pad
              = (⟨.done (.ok .observed), []⟩, s.pad) := rfl
          rw [padStep, he, Option.getD_none,
            Service.runStep_done ((service_start now r s).trans hstart),
            Service.runStep_done hobserve]
          exact ⟨by simp [Answer.states, Answer.statesOf, hpad], rfl,
            ⟨hpad, hwaiting, rfl⟩⟩
      | some e =>
          have hcells := (frame_start now e s.pad).1
          have hbegins := start_begins he now
          rw [padStep, he, Option.getD_some]
          rcases hstart : start now r s with ⟨⟨opening, log⟩, t⟩
          rcases hevent : Pad.start now e s.pad with ⟨⟨opening', log'⟩, p⟩
          rw [hevent] at hcells
          rw [hstart, hevent] at hbegins
          cases hbegins with
          | done hpad hwaiting =>
              rw [Service.runStep_done ((service_start now r s).trans hstart),
                Service.runStep_done (s := Pad.service) hevent]
              exact ⟨by simp [Answer.states, Answer.statesOf, hpad], rfl,
                ⟨hpad, hwaiting, hcells⟩⟩
          | waiting hpad hwaiting =>
              obtain ⟨hstates, hnow, hmet⟩ := runSteps_follows
                ⟨hpad, hwaiting, hcells⟩ (now + delay) during
              rw [Service.runStep_waiting
                ((service_start now r s).trans hstart),
                Service.runStep_waiting (s := Pad.service) hevent]
              dsimp only
              rw [← hnow]
              -- both are finished on what the script has left
              obtain ⟨hend, hkept⟩ := finish_frame _ _ _ ending
              rw [hmet.pad] at hend
              refine ⟨?_, rfl, hend, ?_, ?_⟩
              · simp only [Answer.states, List.map_append, hstates,
                  List.map_cons, List.map_nil]
                exact congrArg (_ ++ [·]) hend
              · exact (congrArg Option.isSome hkept).trans hmet.waiting
              · exact (frame_finish _ _ _ _).1.trans hmet.cells

/-- And so do steps. -/
theorem runSteps_follows {pairing : Bool} {n : Nat} {s : Site} {p : Pad}
    (h : Follows pairing n s p) (now : Int) : ∀ steps : List (Step Incoming),
      let server := service.runSteps now s steps
      let pad := Pad.service.runSteps now p (padSteps pairing n steps)
      (Answer.statesOf server.1).map Site.pad = Answer.statesOf pad.1
        ∧ server.2.1 = pad.2.1 ∧ Follows pairing n server.2.2 pad.2.2
  | [] => ⟨rfl, rfl, h⟩
  | step :: steps => by
      obtain ⟨hstates, hnow, hnext⟩ := runStep_follows h now step
      obtain ⟨hstates', hnow', hlast⟩ := runSteps_follows hnext
        (service.runStep now s step).2.1 steps
      rw [padSteps, Service.runSteps_cons, Service.runSteps_cons]
      dsimp only
      rw [← hnow]
      refine ⟨?_, hnow', hlast⟩
      simp only [Answer.statesOf, List.map_append, hstates, hstates']

end

mutual

/-- A pad that only looks on at a request comes to what it would have come
to without the request. -/
theorem runStep_eventStep (pairing : Bool) (n : Nat) (now : Int) (p : Pad) :
    ∀ step : Step Incoming,
      (Pad.service.runSteps now p (eventStep pairing n step)).2
        = (Pad.service.runStep now p (padStep pairing n step)).2
  | ⟨r, delay, during, ending⟩ => by
      rw [eventStep, padStep]
      cases r.event? pairing n with
      | none =>
          have hobserve : Pad.service.start now .observe p
              = (⟨.done (.ok .observed), []⟩, p) := rfl
          rw [Option.getD_none, Service.runStep_done hobserve]
          rfl
      | some e =>
          dsimp only
          rw [Option.getD_some, Service.runSteps_cons]
          rcases hevent : Pad.service.start now e p with ⟨⟨opening, log⟩, q⟩
          cases opening with
          | done result =>
              rw [Service.runStep_done hevent, Service.runStep_done hevent]
              rfl
          | waiting request flight =>
              have hduring :=
                runSteps_eventSteps pairing n (now + delay) q during
              rw [Service.runStep_waiting hevent,
                Service.runStep_waiting hevent]
              simp only [hduring]
              rfl

/-- So the requests that are no event may be left out. -/
theorem runSteps_eventSteps (pairing : Bool) (n : Nat) (now : Int) (p : Pad) :
    ∀ steps : List (Step Incoming),
      (Pad.service.runSteps now p (eventSteps pairing n steps)).2
        = (Pad.service.runSteps now p (padSteps pairing n steps)).2
  | [] => rfl
  | step :: steps => by
      rw [eventSteps, padSteps, Service.runSteps_append, Service.runSteps_cons]
      have hstep := runStep_eventStep pairing n now p step
      dsimp only
      rw [hstep]
      exact runSteps_eventSteps pairing n _ _ steps

end

-- ============================================================= answers

/-- How a request to a cell or for the focus ends. It is taken if its body
names a cell, refused if the body is anything else, and it is a fault if
what the body is cannot be told. -/
inductive Served (s : Site) (now : Int) (r : Incoming) : Response → Site → Prop
  | taken {e : Event} (hcell : r.cell? s.pad.cellCount ≠ none)
      (he : r.event? s.waiting.isSome s.pad.cellCount = some e)
      (haccepts : s.pad.accepts e = true) :
      Served s now r (shown (Pad.start now e s.pad).2)
        { s with pad := (Pad.start now e s.pad).2 }
  | refused {document : Option Json} (hdocument : r.document? = .ok document)
      (hcell : r.cell? s.pad.cellCount = none) :
      Served s now r (badIndex s.pad) s
  | tooDeep {f : Fault} (hdocument : r.document? = .error f) :
      Served s now r (.bare 500) s

theorem start_served {route : Route}
    (h : r.target s.waiting.isSome = .route route)
    (hroute : route = .cell ∨ route = .focus) (now : Int) :
    ∃ response t, start now r s = (⟨.done (.ok response), []⟩, t)
      ∧ Served s now r response t := by
  by_cases hcell : r.cell? s.pad.cellCount = none
  · obtain ⟨hbad, hdeep⟩ := start_of_no_event h hroute hcell now
    cases hdocument : r.document? with
    | ok document =>
        exact ⟨_, _, hbad document hdocument, .refused hdocument hcell⟩
    | error f => exact ⟨_, _, hdeep f hdocument, .tooDeep hdocument⟩
  · obtain ⟨e, he⟩ : ∃ e,
        r.event? s.waiting.isSome s.pad.cellCount = some e := by
      obtain ⟨named, hnamed⟩ := Option.ne_none_iff_exists'.mp hcell
      rcases hroute with rfl | rfl
      · exact ⟨_, by rw [Incoming.event?, h, hnamed]; rfl⟩
      · exact ⟨_, by rw [Incoming.event?, h, hnamed]; rfl⟩
    obtain ⟨haccepts, hstart⟩ := start_of_event h hroute he now
    exact ⟨_, _, hstart, .taken hcell he haccepts⟩

namespace Served

variable {now : Int} {response : Response} {t : Site}

/-- The status tells how a request ended. -/
theorem status_iff (h : Served s now r response t) :
    (response.status = 200 ↔ r.cell? s.pad.cellCount ≠ none)
      ∧ (response.status = 400 ↔ (∃ document, r.document? = .ok document)
          ∧ r.cell? s.pad.cellCount = none)
      ∧ (response.status = 500 ↔ ∃ f, r.document? = .error f) := by
  cases h with
  | taken hcell he haccepts =>
      obtain ⟨⟨i, fields⟩, hnamed⟩ := Option.ne_none_iff_exists'.mp hcell
      obtain ⟨document, hdocument, -⟩ := exists_of_cell? hnamed
      simp [shown, Response.document, hcell, hdocument]
  | refused hdocument hcell =>
      simp [badIndex, Response.document, hcell, hdocument]
  | tooDeep hdocument =>
      simp [Response.bare, Incoming.cell?, hdocument]

end Served

end Site

-- ================================================= bodies nested too deep

/-- The text of opening brackets is refused for its depth. -/
theorem value_brackets {depth : Nat} : ∀ {fuel k : Nat}, 2 * depth < fuel →
    depth < k → Json.Reader.value depth fuel (List.replicate k (.char '['))
      = .error (.tooDeep true) := by
  induction depth with
  | zero =>
      intro fuel k hfuel hk
      obtain ⟨fuel, rfl⟩ :=
        Nat.exists_eq_add_one_of_ne_zero (by omega : fuel ≠ 0)
      obtain ⟨k, rfl⟩ := Nat.exists_eq_add_one_of_ne_zero (by omega : k ≠ 0)
      rw [List.replicate_succ, Json.Reader.value]
      rfl
  | succ depth ih =>
      intro fuel k hfuel hk
      obtain ⟨fuel, rfl⟩ : ∃ m, fuel = m + 1 + 1 := ⟨fuel - 2, by omega⟩
      obtain ⟨k, rfl⟩ : ∃ m, k = m + 2 := ⟨k - 2, by omega⟩
      have hinner := ih (by omega : 2 * depth < fuel) (by omega : depth < k + 1)
      rw [List.replicate_succ] at hinner ⊢
      rw [Json.Reader.value, List.replicate_succ, if_neg (Nat.succ_ne_zero _)]
      have hgap : Json.Reader.skipGap
        (.char '[' :: List.replicate k (.char '['))
          = .char '[' :: List.replicate k (.char '[') := rfl
      have hitems : Json.Reader.items depth (fuel + 1)
          (.char '[' :: List.replicate k (.char '['))
            = .error (.tooDeep true) := by
        rw [Json.Reader.items, hinner]
        rfl
      rw [hgap]
      show Except.map _ (Json.Reader.items depth (fuel + 1) _) = _
      rw [hitems]
      rfl

theorem utf8Units_brackets (k : Nat) :
    utf8Units true (List.replicate k 0x5B)
      = List.replicate k ⟨[0x5B], .ok (.char '[')⟩ := by
  induction k with
  | zero => rfl
  | succ k ih =>
      rw [List.replicate_succ, List.replicate_succ, ← ih, utf8Units.eq_def]
      rfl

theorem textOfUnits_brackets (offset k : Nat) :
    textOfUnits offset (List.replicate k ⟨[0x5B], .ok (.char '[')⟩)
      = .ok (List.replicate k (.char '[')) := by
  induction k generalizing offset with
  | zero => rfl
  | succ k ih =>
      rw [List.replicate_succ, List.replicate_succ, textOfUnits, ih]
      rfl

/-- A body of opening brackets is a fault as soon as there is one more of
them than the server follows. -/
theorem Incoming.document?_brackets {r : Incoming} {k : Nat}
    (hk : documentDepth < k) (hbody : r.body = List.replicate k 0x5B) :
    ∃ f, r.document? = .error f := by
  have htext : documentText? r.body = some (List.replicate k (.char '[')) := by
    obtain ⟨m, rfl⟩ : ∃ m, k = m + 4 := ⟨k - 4, by
      unfold documentDepth at hk
      omega⟩
    have hdetect : Encoding.detect (List.replicate (m + 4) 0x5B)
        = (.utf8, List.replicate (m + 4) 0x5B) := rfl
    rw [hbody, documentText?, hdetect]
    dsimp only
    rw [Encoding.decode, decodeUtf8, utf8Units_brackets, textOfUnits_brackets]
    rfl
  have hread : Json.read documentDepth (List.replicate k (.char '['))
      = .error (.tooDeep true) := by
    obtain ⟨m, rfl⟩ : ∃ m, k = m + 1 := ⟨k - 1, by omega⟩
    have hgap : Json.Reader.skipGap (List.replicate (m + 1) (.char '['))
        = List.replicate (m + 1) (.char '[') := rfl
    have hvalue := value_brackets
      (by rw [List.length_replicate]; omega :
        2 * documentDepth
          < 2 * (List.replicate (m + 1) (CodePoint.char '[')).length + 2) hk
    rw [Json.read, hgap, hvalue]
    rfl
  unfold document?
  rw [htext]
  dsimp only
  rw [hread]
  exact ⟨_, rfl⟩

-- ======================================================== the refinement

/-- The server is refined by its pad. Whatever requests are served, also
while a submission is under way, every state that the server shows is that
of a pad that is served the events among them, and leaving out the requests
that are no event the pad comes to the same end at the same time. A request
to a cell or for the focus is answered at once: with what the pad shows
after the event if its body names a cell; with the answer for a bad index,
and nothing changed, if the body is read and names none. A body that cannot
be read because it is nested too deep is the one exception: it is answered
as a fault, and nothing has changed. The indices that the server lets
through are those that the pad takes. -/
theorem Site.server_refines_pad (s : Site) (now : Int) :
    (∀ steps : List (Step Incoming),
      let pairing := s.waiting.isSome
      let n := s.pad.cellCount
      let served := service.runSteps now s steps
      let watched := Pad.service.runSteps now s.pad (padSteps pairing n steps)
      let told := Pad.service.runSteps now s.pad (eventSteps pairing n steps)
      (Answer.statesOf served.1).map Site.pad = Answer.statesOf watched.1
        ∧ served.2.1 = told.2.1 ∧ served.2.2.pad = told.2.2)
      ∧ (∀ name route, (name, route) ∈ [("/api/cell", Route.cell),
            ("/api/focus", .focus), ("/api/submit", .submit)] →
          ∀ r : Incoming, r.target s.waiting.isSome = .route route
            ↔ r.method.map CodePoint.toUpper = Text.ofString "POST"
              ∧ r.askedPath ≠ [] ∧ rooted r.askedPath = Text.ofString name)
      ∧ (∀ (r : Incoming) (route : Route),
          r.target s.waiting.isSome = .route route →
          (route = .cell ∨ route = .focus) →
          ∃ response t, start now r s = (⟨.done (.ok response), []⟩, t)
            ∧ (response.status = 200 ↔ r.cell? s.pad.cellCount ≠ none)
            ∧ (response.status = 400
                ↔ (∃ document, r.document? = .ok document)
                  ∧ r.cell? s.pad.cellCount = none)
            ∧ (response.status = 500 ↔ ∃ f, r.document? = .error f)
            ∧ (response.status = 200 →
                ∃ e, r.event? s.waiting.isSome s.pad.cellCount = some e
                  ∧ s.pad.accepts e = true
                  ∧ t = { s with pad := (Pad.start now e s.pad).2 }
                  ∧ response = shown t.pad)
            ∧ (response.status = 400 → t = s ∧ response = badIndex s.pad)
            ∧ (response.status = 500 → t = s))
      ∧ (∀ fields i, index? s.pad (some (.obj fields)) = some i
          ↔ ∃ v, Json.lookup "index" fields = some v ∧ s.pad.index? v = .ok i)
      ∧ ∀ (r : Incoming) (k : Nat), Incoming.documentDepth < k →
          r.body = List.replicate k 0x5B → ∃ f, r.document? = .error f := by
  refine ⟨?_, ?_, ?_, fun _ _ => index?_eq_some,
    fun _ _ hk hbody => Incoming.document?_brackets hk hbody⟩
  · intro steps
    obtain ⟨hstates, hnow, hlast⟩ := runSteps_follows ⟨rfl, rfl, rfl⟩ now steps
    have htold := runSteps_eventSteps s.waiting.isSome s.pad.cellCount now s.pad
      steps
    refine ⟨hstates, ?_, ?_⟩
    · rw [hnow, htold]
    · rw [hlast.pad, htold]
  · intro name route h r
    have hpad : ∀ entry ∈ [("/api/cell", Route.cell), ("/api/focus", .focus),
          ("/api/submit", .submit)],
        entry ∈ Route.padPaths ∧ entry.2.methods = ["OPTIONS", "POST"] := by
      decide
    obtain ⟨hmem, hmethods⟩ := hpad _ h
    exact target_of_post hmem hmethods r s.waiting.isSome
  · intro r route htarget hroute
    obtain ⟨response, t, hstart, hserved⟩ := start_served htarget hroute now
    obtain ⟨h200, h400, h500⟩ := hserved.status_iff
    refine ⟨response, t, hstart, h200, h400, h500, ?_⟩
    cases hserved with
    | taken hcell he haccepts =>
        refine ⟨fun _ => ⟨_, he, haccepts, rfl, rfl⟩, ?_, ?_⟩
        · intro h
          cases h
        · intro h
          cases h
    | refused hdocument hcell =>
        refine ⟨?_, fun _ => ⟨rfl, rfl⟩, fun _ => rfl⟩
        intro h
        cases h
    | tooDeep hdocument =>
        refine ⟨?_, ?_, fun _ => rfl⟩
        · intro h
          cases h
        · intro h
          cases h

end DevicePairing.Web
