/-
A submission with the events served during it.

While the client waits the pad serves events as ever, except that no
second submission goes out. `Meanwhile` is everything the end of the
submission has to know of them: how many changes there were, how many of
them inputs, and that without an input cells and verdict are untouched.
Whether an event is accepted is settled before the flight begins, so both
numbers are counts over the list of events.
-/
import DevicePairing.Proofs.Pad.Scene

namespace DevicePairing.Scene

open Pad (Event)

-- ============================================================ one event

/-- An accepted event: what it changes, and what it leaves. -/
theorem serve_accepted {s : Scene} {e : Event} (h : s.pad.accepts e = true)
    (now : Int) :
    ∃ p m, s.serve now e = { s with pad := p, trail := s.trail ++ [m] }
      ∧ p.version = s.pad.version + 1
      ∧ p.inFlight = s.pad.inFlight
      ∧ p.client = s.pad.client
      ∧ p.cellCount = s.pad.cellCount
      ∧ if e.isInput then p.generation = s.pad.generation + 1 ∧ p.verdict = none
        else p.generation = s.pad.generation ∧ p.verdict = s.pad.verdict
          ∧ p.cells = s.pad.cells := by
  cases e with
  | input index raw =>
      simp only [Pad.accepts, Bool.and_eq_true] at h
      cases hi : s.pad.index? index with
      | error f => simp [hi, Except.toBool] at h
      | ok i =>
          cases hc : Cell.ofInput raw with
          | error f => simp [hc, Except.toBool] at h
          | ok c =>
              have hok : s.pad.onInput index raw = .ok (c, s.pad.store i c) :=
                Pad.onInput_eq_ok.mpr ⟨i, hi, hc, rfl⟩
              refine ⟨s.pad.store i c, .typed index raw, ?_, ?_⟩
              · simp only [serve, hok]
              · simp [Event.isInput, Pad.cellCount]
  | focus index =>
      simp only [Pad.accepts] at h
      cases hi : s.pad.index? index with
      | error f => simp [hi, Except.toBool] at h
      | ok i =>
          have hok : s.pad.onFocus index
              = .ok ({ s.pad with version := s.pad.version + 1 }.select i) :=
            Pad.onFocus_eq_ok.mpr ⟨i, hi, rfl⟩
          refine ⟨{ s.pad with version := s.pad.version + 1 }.select i,
            .focused index, ?_, rfl, rfl, rfl, rfl, rfl, rfl, rfl⟩
          simp only [serve, hok]
  | submit => cases h
  | observe => cases h

/-- A refused event changes nothing at all. -/
theorem serve_refused {s : Scene} {e : Event} (h : s.pad.accepts e = false)
    (hsubmit : e = .submit → s.pad.refusal? ≠ none) (now : Int) :
    s.serve now e = s := by
  cases e with
  | input index raw =>
      cases hok : s.pad.onInput index raw with
      | error f => simp only [serve, hok]
      | ok r =>
          obtain ⟨c, q⟩ := r
          obtain ⟨i, hi, hc, -⟩ := Pad.onInput_eq_ok.mp hok
          simp [Pad.accepts, hi, hc, Except.toBool] at h
  | focus index =>
      cases hok : s.pad.onFocus index with
      | error f => simp only [serve, hok]
      | ok q =>
          obtain ⟨i, hi, -⟩ := Pad.onFocus_eq_ok.mp hok
          simp [Pad.accepts, hi, Except.toBool] at h
  | submit =>
      cases hr : s.pad.refusal? with
      | none => exact absurd hr (hsubmit rfl)
      | some line => simp only [serve, hr]
  | observe => rfl

-- ============================================================== a flight

/-- The accepted events among some, and the accepted inputs. -/
def accepted (p : Pad) (events : List (Int × Event)) : Nat :=
  events.countP fun e => p.accepts e.2

def edits (p : Pad) (events : List (Int × Event)) : Nat :=
  events.countP fun e => p.acceptsInput e.2

/-- What serving events during a flight comes to. -/
structure Meanwhile (s t : Scene) (events : List (Int × Event)) : Prop where
  calls : t.calls = s.calls
  held : t.pad.inFlight = true
  client : t.pad.client = s.pad.client
  cellCount : t.pad.cellCount = s.pad.cellCount
  version : t.pad.version = s.pad.version + accepted s.pad events
  generation : t.pad.generation = s.pad.generation + edits s.pad events
  untouched : edits s.pad events = 0 →
    t.pad.cells = s.pad.cells ∧ t.pad.verdict = s.pad.verdict
  touched : edits s.pad events ≠ 0 → t.pad.verdict = none

/-- One event served during a flight. -/
theorem meanwhile_serve {s : Scene} (h : s.pad.inFlight = true) (now : Int)
    (e : Event) :
    Meanwhile s (s.serve now e) [(now, e)] := by
  cases ha : s.pad.accepts e with
  | true =>
      obtain ⟨p, m, hserve, hversion, hheld, hclient, hcount, hrest⟩ :=
        serve_accepted ha now
      rw [hserve]
      cases hin : e.isInput with
      | true =>
          simp only [hin, if_true] at hrest
          refine ⟨rfl, hheld.trans h, hclient, hcount, ?_, ?_, ?_,
            fun _ => hrest.2⟩
          · simp [accepted, ha, hversion]
          · simp [edits, Pad.acceptsInput, ha, hin, hrest.1]
          · intro h0
            simp [edits, Pad.acceptsInput, ha, hin] at h0
      | false =>
          simp only [hin, Bool.false_eq_true, if_false] at hrest
          refine ⟨rfl, hheld.trans h, hclient, hcount, ?_, ?_,
            fun _ => ⟨hrest.2.2, hrest.2.1⟩, ?_⟩
          · simp [accepted, ha, hversion]
          · simp [edits, Pad.acceptsInput, hin, hrest.1]
          · intro h0
            simp [edits, Pad.acceptsInput, hin] at h0
  | false =>
      have hsame : s.serve now e = s := by
        apply serve_refused ha
        exact fun _ => Pad.refusal?_of_inFlight h
      rw [hsame]
      refine ⟨rfl, h, rfl, rfl, ?_, ?_, fun _ => ⟨rfl, rfl⟩, ?_⟩
      · simp [accepted, ha]
      · simp [edits, Pad.acceptsInput, ha]
      · intro h0
        simp [edits, Pad.acceptsInput, ha] at h0

/-- What comes of some events comes of them one after the other. -/
theorem Meanwhile.trans {s t u : Scene} {earlier later : List (Int × Event)}
    (h : Meanwhile s t earlier) (h' : Meanwhile t u later) :
    Meanwhile s u (earlier ++ later) := by
  have haccepted : accepted t.pad later = accepted s.pad later := by
    unfold accepted
    simp only [Pad.accepts_congr h.cellCount]
  have hedits : edits t.pad later = edits s.pad later := by
    unfold edits
    simp only [Pad.acceptsInput_congr h.cellCount]
  have hsplit : edits s.pad (earlier ++ later)
      = edits s.pad earlier + edits s.pad later :=
    List.countP_append
  refine ⟨h'.calls.trans h.calls, h'.held, h'.client.trans h.client,
    h'.cellCount.trans h.cellCount, ?_, ?_, ?_, ?_⟩
  · rw [h'.version, h.version, haccepted, accepted, accepted, accepted,
      List.countP_append]
    omega
  · rw [h'.generation, h.generation, hedits, hsplit]
    omega
  · intro h0
    obtain ⟨hcells, hverdict⟩ := h.untouched (by omega)
    obtain ⟨hcells', hverdict'⟩ := h'.untouched (by omega)
    exact ⟨hcells'.trans hcells, hverdict'.trans hverdict⟩
  · intro h0
    by_cases hlater : edits s.pad later = 0
    · rw [(h'.untouched (by omega)).2]
      exact h.touched (by omega)
    · exact h'.touched (by omega)

/-- Any events served during a flight. -/
theorem meanwhile_serveAll (events : List (Int × Event)) :
    ∀ {s : Scene}, s.pad.inFlight = true
      → Meanwhile s (s.serveAll events) events := by
  induction events with
  | nil =>
      intro s h
      exact ⟨rfl, h, rfl, rfl, rfl, rfl, fun _ => ⟨rfl, rfl⟩,
        fun h0 => absurd rfl h0⟩
  | cons e events ih =>
      intro s h
      have hfirst := meanwhile_serve h e.1 e.2
      exact hfirst.trans (ih hfirst.held)

/-- A submission that goes out, and the events until its response. -/
theorem meanwhile_submit {s : Scene} (h : s.pad.refusal? = none) (now : Int)
    (during : List (Int × Event)) :
    s.serve now .submit = s.depart now
      ∧ Meanwhile (s.depart now) ((s.serve now .submit).serveAll during)
        during := by
  have hserve : s.serve now .submit = s.depart now := by simp only [serve, h]
  refine ⟨hserve, ?_⟩
  rw [hserve]
  exact meanwhile_serveAll during rfl

end DevicePairing.Scene
