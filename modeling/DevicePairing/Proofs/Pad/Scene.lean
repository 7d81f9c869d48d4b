/-
A pad over time, one locked section after the other.

A pad is shared: while the client waits for a response, other events are
served. So what happens to a pad is a sequence of moves, each a section
under its lock, and nothing is assumed about their order. An event may be
served at any time. A client call that is under way may end at any time
and in any way; a submission whose request cannot be made at all is a
call that ends at once. The runs of the service are among these runs
(`Service.lean`).

A scene is the pad with the calls under way and the trail: every change
so far, oldest first. Events that are refused leave no mark on the
trail. Nothing in a scene but the pad is ever read by the pad; calls and
trail are there to say what happened. In particular nothing here bounds
the number of calls under way; that there is never more than one is the
pad's doing.

`Change` lists what one move can do, and `step_change` is the only proof
that opens a move. Invariants are proved over `Change`, one case for
each kind of section, and carried to whole runs by `run_induction`.
-/
import DevicePairing.Proofs.Pad.Sections

namespace DevicePairing

open Pad (Event Flight)

/-- A call of the client: what it was asked to submit, and what the pad
kept of the submission. -/
structure Call where
  submission : Submission
  flight : Flight

/-- A change, as the trail has it. -/
inductive Mark where
  | typed (index raw : Json)
  | focused (index : Json)
  | sent (call : Call)
  | returned (call : Call) (ending : Ending) (outcome : Outcome)
  | raised (call : Call) (fault : Fault)

namespace Mark

/-- Whether an input was accepted. -/
def isTyped : Mark → Bool
  | .typed _ _ => true
  | _ => false

/-- Whether a submission went out. -/
def isSent : Mark → Bool
  | .sent _ => true
  | _ => false

/-- Whether a submission returned an outcome. -/
def isReturned : Mark → Bool
  | .returned _ _ _ => true
  | _ => false

/-- What the end of a call leaves on the trail. -/
def ofAnswer (call : Call) (ending : Ending) :
    Except Fault (Option Outcome) → List Mark
  | .ok (some o) => [.returned call ending o]
  | .ok none => []
  | .error f => [.raised call f]

end Mark

/-- A move: an event is served at a reading of the clock, or the call at
some place among those under way ends. -/
inductive Move where
  | serve (now : Int) (event : Event)
  | reply (place : Nat) (now : Int) (ending : Ending)

/-- A pad, the calls under way, and everything that changed so far. -/
structure Scene where
  pad : Pad
  calls : List Call := []
  trail : List Mark := []

namespace Scene

-- ================================================================ moves

/-- The scene when a submission goes out. -/
def depart (s : Scene) (now : Int) : Scene :=
  let call : Call := ⟨s.pad.submission, ⟨s.pad.generation, now⟩⟩
  { pad := s.pad.depart
    calls := s.calls ++ [call]
    trail := s.trail ++ [.sent call] }

/-- The scene when an event has been served. -/
def serve (s : Scene) (now : Int) : Event → Scene
  | .input index raw =>
    match s.pad.onInput index raw with
    | .ok (_, p) => { s with pad := p, trail := s.trail ++ [.typed index raw] }
    | .error _ => s
  | .focus index =>
    match s.pad.onFocus index with
    | .ok p => { s with pad := p, trail := s.trail ++ [.focused index] }
    | .error _ => s
  | .submit =>
    match s.pad.refusal? with
    | none => s.depart now
    | some _ => s
  | .observe => s

/-- The scene when the call at a place has ended. -/
def settle (s : Scene) (place : Nat) (call : Call) (now : Int)
    (ending : Ending) : Scene :=
  let (answer, p) := s.pad.finishSubmit now call.flight ending
  { pad := p
    calls := s.calls.eraseIdx place
    trail := s.trail ++ Mark.ofAnswer call ending answer.value }

/-- The scene after a move. -/
def step (s : Scene) : Move → Scene
  | .serve now event => s.serve now event
  | .reply place now ending =>
    match s.calls[place]? with
    | some call => s.settle place call now ending
    | none => s

/-- The scene after some moves. -/
def run (s : Scene) (moves : List Move) : Scene := moves.foldl step s

/-- The scene after some events were served. -/
def serveAll (s : Scene) (events : List (Int × Event)) : Scene :=
  events.foldl (fun s (now, event) => s.serve now event) s

/-- A new pad before anything has happened to it. -/
def new (uniqueId : Json) (client : Client) (n : Nat) : Scene :=
  { pad := Pad.new uniqueId client n }

@[simp] theorem run_nil (s : Scene) : s.run [] = s := rfl

@[simp] theorem run_cons (s : Scene) (m : Move) (moves : List Move) :
    s.run (m :: moves) = (s.step m).run moves := rfl

theorem run_append (s : Scene) (earlier later : List Move) :
    s.run (earlier ++ later) = (s.run earlier).run later :=
  List.foldl_append

-- ============================================================== changes

/-- What one move can do to a scene. -/
inductive Change (s : Scene) : Scene → Prop
  | nothing : Change s s
  | typed {index raw : Json} {i : Nat} {c : Cell}
      (hi : s.pad.index? index = .ok i) (hc : Cell.ofInput raw = .ok c) :
      Change s
        { s with
          pad := s.pad.store i c
          trail := s.trail ++ [.typed index raw] }
  | focused {index : Json} {i : Nat} (hi : s.pad.index? index = .ok i) :
      Change s
        { s with
          pad := { s.pad with version := s.pad.version + 1 }.select i
          trail := s.trail ++ [.focused index] }
  | sent {now : Int} (h : s.pad.refusal? = none) : Change s (s.depart now)
  | returned {place : Nat} {call : Call} {now : Int} {ending : Ending}
      {o : Outcome} {isStale : Bool} (hcall : s.calls[place]? = some call)
      (ho : (s.pad.client.finish now call.flight.started ending).value = .ok o)
      (hs : isStale = (call.flight.generation != s.pad.generation)) :
      Change s
        { pad := s.pad.land.announce isStale (Pad.judged isStale o)
          calls := s.calls.eraseIdx place
          trail := s.trail ++ [.returned call ending (Pad.judged isStale o)] }
  | raised {place : Nat} {call : Call} {now : Int} {ending : Ending}
      {f : Fault} (hcall : s.calls[place]? = some call)
      (hf : (s.pad.client.finish now call.flight.started ending).value
        = .error f)
      (hn : f.family ≠ .interrupt) :
      Change s
        { pad := s.pad.land
          calls := s.calls.eraseIdx place
          trail := s.trail ++ [.raised call f] }
  | interrupted {place : Nat} {call : Call} {now : Int} {ending : Ending}
      {f : Fault} (hcall : s.calls[place]? = some call)
      (hf : (s.pad.client.finish now call.flight.started ending).value
        = .error f)
      (hn : f.family = .interrupt) :
      Change s
        { pad := s.pad
          calls := s.calls.eraseIdx place
          trail := s.trail ++ [.raised call f] }

/-- Every move is one of the changes. -/
theorem step_change (s : Scene) (m : Move) : Change s (s.step m) := by
  cases m with
  | serve now event =>
      cases event with
      | input index raw =>
          cases h : s.pad.onInput index raw with
          | error f =>
              simp only [step, serve, h]
              exact .nothing
          | ok r =>
              obtain ⟨c, p⟩ := r
              obtain ⟨i, hi, hc, rfl⟩ := Pad.onInput_eq_ok.mp h
              simp only [step, serve, h]
              exact .typed hi hc
      | focus index =>
          cases h : s.pad.onFocus index with
          | error f =>
              simp only [step, serve, h]
              exact .nothing
          | ok p =>
              obtain ⟨i, hi, rfl⟩ := Pad.onFocus_eq_ok.mp h
              simp only [step, serve, h]
              exact .focused hi
      | submit =>
          cases h : s.pad.refusal? with
          | some line =>
              simp only [step, serve, h]
              exact .nothing
          | none =>
              simp only [step, serve, h]
              exact .sent h
      | observe => exact .nothing
  | reply place now ending =>
      cases hcall : s.calls[place]? with
      | none =>
          simp only [step, hcall]
          exact .nothing
      | some call =>
          simp only [step, hcall]
          let finished := s.pad.client.finish now call.flight.started ending
          cases hf : finished.value with
          | ok o =>
              obtain ⟨hvalue, hpad⟩ := Pad.finishSubmit_of_ok _ hf
              simp only [settle, hvalue, hpad]
              exact .returned hcall hf rfl
          | error f =>
              obtain ⟨hvalue, hpad⟩ := Pad.finishSubmit_of_error _ hf
              simp only [settle, hvalue, hpad]
              by_cases hn : f.family = .interrupt
              · rw [if_pos hn]
                exact .interrupted hcall hf hn
              · rw [if_neg hn]
                exact .raised hcall hf hn

/-- What every change preserves, every run preserves. -/
theorem run_induction {P : Scene → Prop}
    (hstep : ∀ s s', Change s s' → P s → P s') :
    ∀ (moves : List Move) (s : Scene), P s → P (s.run moves)
  | [], _, h => h
  | m :: moves, s, h =>
      run_induction hstep moves (s.step m) (hstep s _ (step_change s m) h)

-- ====================================================== what never moves

/-- The number of cells, the client and the device stay as they were. -/
theorem Change.frame {s s' : Scene} (h : Change s s') :
    s'.pad.cells.length = s.pad.cells.length
      ∧ s'.pad.client = s.pad.client
      ∧ s'.pad.uniqueId = s.pad.uniqueId := by
  cases h with
  | typed hi hc => simp
  | _ => exact ⟨rfl, rfl, rfl⟩

theorem run_frame (s : Scene) (moves : List Move) :
    (s.run moves).pad.cells.length = s.pad.cells.length
      ∧ (s.run moves).pad.client = s.pad.client
      ∧ (s.run moves).pad.uniqueId = s.pad.uniqueId := by
  refine run_induction
    (P := fun t => t.pad.cells.length = s.pad.cells.length
      ∧ t.pad.client = s.pad.client ∧ t.pad.uniqueId = s.pad.uniqueId)
    (fun t t' hchange ht => ?_) moves s ⟨rfl, rfl, rfl⟩
  obtain ⟨hcells, hclient, hid⟩ := hchange.frame
  exact ⟨hcells.trans ht.1, hclient.trans ht.2.1, hid.trans ht.2.2⟩

/-- A pad keeps the number of cells that it was made with. -/
theorem cellCount_run (u : Json) (c : Client) (n : Nat) (moves : List Move) :
    ((new u c n).run moves).pad.cellCount = n :=
  (run_frame (new u c n) moves).1.trans List.length_replicate

end Scene

end DevicePairing
