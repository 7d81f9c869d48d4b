/-
What the pad shows is what was sent.

A pad shows success or failure only for the digits it holds: for exactly
the PIN of the last submission that returned, and only while no cell has
been touched since that submission went out. This has to hold against
every order of sections, with edits before, during and after a flight,
with submissions that are refused, abandoned, raised or interrupted, and
with a verdict that outlives later submissions which returned nothing.

# The invariant

`Sound` has two halves. The half about calls under way says that there is
at most one, that its count of inputs is the pad's exactly if no input
was accepted since it went out (and then the pad still holds what was
sent), and that otherwise the verdict is gone. That last clause is what
the end of a stale call needs: it returns an outcome, so the submission
that the old verdict spoke of is no longer the last one that did, and the
verdict must not be there to speak of it.

The half about the verdict is the statement itself, kept for the verdict
instead of the phase: a verdict may be hidden behind a later flight and
come back when that flight raises.

The last submission that returned is read off the trail. Of a script it
is read off the answers: their own requests and outcomes (`Told.Backs`)
are what a state that an answer shows is held against.
-/
import DevicePairing.Proofs.Client
import DevicePairing.Proofs.Pad.Service

namespace DevicePairing

namespace Mark

/-- What has happened since a call was sent, no submission having been
sent or returned meanwhile. -/
def Underway (trail : List Mark) (call : Call) (between : List Mark) : Prop :=
  (∃ before, trail = before ++ .sent call :: between)
    ∧ ∀ m ∈ between, m.isSent = false ∧ m.isReturned = false

/-- The most recent submission that returned an outcome: the call, how it
ended, the outcome, and everything since it was sent. -/
def LastReturned (trail : List Mark) (call : Call) (ending : Ending)
    (o : Outcome) (since : List Mark) : Prop :=
  ∃ before between after,
    Underway before call between
      ∧ trail = before ++ .returned call ending o :: after
      ∧ (∀ m ∈ after, m.isReturned = false)
      ∧ since = between ++ .returned call ending o :: after

/-- Whether no input was accepted among some changes. -/
def Untouched (marks : List Mark) : Prop := ∀ m ∈ marks, m.isTyped = false

theorem forall_mem_snoc {P : Mark → Prop} {marks : List Mark}
    (h : ∀ m ∈ marks, P m) {m : Mark} (hm : P m) : ∀ m' ∈ marks ++ [m], P m' :=
  List.forall_mem_append.mpr ⟨h, List.forall_mem_singleton.mpr hm⟩

/-- A call stays under way over a change that is neither a sending nor a
return. -/
theorem Underway.snoc {trail between : List Mark} {call : Call}
    (h : Underway trail call between) {m : Mark}
    (hm : m.isSent = false ∧ m.isReturned = false) :
    Underway (trail ++ [m]) call (between ++ [m]) := by
  obtain ⟨⟨before, htrail⟩, hbetween⟩ := h
  refine ⟨⟨before, ?_⟩, forall_mem_snoc hbetween hm⟩
  rw [htrail]
  simp

/-- A call that returns is the last that did. -/
theorem Underway.returned {trail between : List Mark} {call : Call}
    (h : Underway trail call between) (ending : Ending) (o : Outcome) :
    LastReturned (trail ++ [.returned call ending o]) call ending o
      (between ++ [.returned call ending o]) :=
  ⟨trail, between, [], h, rfl, fun _ hm => absurd hm List.not_mem_nil, rfl⟩

/-- A change that is no return leaves the last one in its place. -/
theorem LastReturned.snoc {trail since : List Mark} {call : Call}
    {ending : Ending} {o : Outcome}
    (h : LastReturned trail call ending o since) {m : Mark}
    (hm : m.isReturned = false) :
    LastReturned (trail ++ [m]) call ending o (since ++ [m]) := by
  obtain ⟨before, between, after, hunder, htrail, hafter, hsince⟩ := h
  refine ⟨before, between, after ++ [m], hunder, ?_,
    forall_mem_snoc hafter hm, ?_⟩
  · rw [htrail]
    simp
  · rw [hsince]
    simp

end Mark

/-- The last submission that returned an outcome, as it is told: the
request that was sent for it, the outcome, and that no input was accepted
since it went out. -/
def Told.Backs (told : List Told) (request : Option Request) (o : Outcome) :
    Prop :=
  ∃ before between after,
    told = before ++ .sent request :: between ++ .ended (.ok o) :: after
      ∧ (∀ t ∈ between,
        t.isTyped = false ∧ t.isSent = false ∧ t.outcome? = none)
      ∧ ∀ t ∈ after, t.isTyped = false ∧ t.outcome? = none

namespace Mark

theorem outcome?_told_of_not_returned (c : Client) {m : Mark}
    (h : m.isReturned = false) : (m.told c).outcome? = none := by
  rw [← Option.not_isSome_iff_eq_none, m.isSome_outcome?_told c, h]
  exact Bool.false_ne_true

/-- What the trail says of the last submission that returned is told. -/
theorem LastReturned.told {trail since : List Mark} {call : Call}
    {ending : Ending} {o : Outcome}
    (h : LastReturned trail call ending o since) (huntouched : Untouched since)
    (c : Client) :
    Told.Backs (trail.map (Mark.told c)) (c.request call.submission).toOption
      o := by
  obtain ⟨_, between, after, ⟨⟨before, rfl⟩, hunder⟩, rfl, hafter, rfl⟩ := h
  refine ⟨before.map (Mark.told c), between.map (Mark.told c),
    after.map (Mark.told c), ?_, ?_, ?_⟩
  · simp only [List.map_append, List.map_cons]
    rfl
  · rw [List.forall_mem_map]
    intro m hm
    obtain ⟨hsent, hreturned⟩ := hunder m hm
    refine ⟨?_, ?_, outcome?_told_of_not_returned c hreturned⟩
    · rw [isTyped_told]
      exact huntouched m (List.mem_append_left _ hm)
    · rw [isSent_told, hsent]
  · rw [List.forall_mem_map]
    intro m hm
    refine ⟨?_, outcome?_told_of_not_returned c (hafter m hm)⟩
    rw [isTyped_told]
    exact huntouched m (List.mem_append_right _ (List.mem_cons_of_mem _ hm))

end Mark

open Mark (Underway LastReturned Untouched)

-- ========================================================== vocabulary

/-- The verdict that an outcome calls for, and for a success the status
that it takes and keeps. -/
def Verdict.Answers (ending : Ending) (o : Outcome) : Verdict → Prop
  | .success => o.result = .success ∧ ∃ code, ending = .status code
    ∧ o.status = some code ∧ 200 ≤ code ∧ code < 300
  | .error => o.result = .failure

namespace Scene

/-- The pad is full and holds what the last submission that returned an
outcome was sent with, and that outcome calls for the verdict. -/
def Backed (s : Scene) (v : Verdict) : Prop :=
  s.pad.submitEnabled = true
    ∧ ∃ call ending o since, LastReturned s.trail call ending o since
        ∧ call.submission = s.pad.submission
        ∧ Untouched since
        ∧ v.Answers ending o

/-- How a call that is under way stands to the pad. -/
structure Pending (s : Scene) (call : Call) : Prop where
  traced : ∃ between, Underway s.trail call between
    ∧ (call.flight.generation = s.pad.generation → Untouched between)
  generation_le : call.flight.generation ≤ s.pad.generation
  current : call.flight.generation = s.pad.generation →
    call.submission = s.pad.submission ∧ s.pad.submitEnabled = true
  stale : call.flight.generation ≠ s.pad.generation → s.pad.verdict = none

/-- The invariant of every run. -/
structure Sound (s : Scene) : Prop where
  single : s.calls.length ≤ 1
  held : s.calls ≠ [] → s.pad.inFlight = true
  pending : ∀ call ∈ s.calls, s.Pending call
  backed : ∀ v, s.pad.verdict = some v → s.Backed v

theorem sound_new (u : Json) (c : Client) (n : Nat) : Sound (.new u c n) where
  single := Nat.zero_le 1
  held h := absurd rfl h
  pending _ h := absurd h List.not_mem_nil
  backed _ h := by cases h

-- ============================================================ one move

/-- The only call under way is the first one, and nothing is left when it
has ended. -/
theorem Sound.only {s : Scene} (h : s.Sound) {place : Nat} {call : Call}
    (hcall : s.calls[place]? = some call) :
    call ∈ s.calls ∧ s.calls.eraseIdx place = [] := by
  have hmem : call ∈ s.calls := List.mem_of_getElem? hcall
  refine ⟨hmem, ?_⟩
  obtain ⟨hlt, -⟩ := List.getElem?_eq_some_iff.mp hcall
  have hlen := h.single
  apply List.eq_nil_of_length_eq_zero
  rw [List.length_eraseIdx_of_lt hlt]
  omega

/-- A change that touches neither device nor cells keeps what backs a
verdict. -/
theorem Backed.snoc {s s' : Scene} {v : Verdict} {m : Mark} (h : s.Backed v)
    (hfull : s'.pad.submitEnabled = s.pad.submitEnabled)
    (hsubmission : s'.pad.submission = s.pad.submission)
    (htrail : s'.trail = s.trail ++ [m])
    (hm : m.isReturned = false ∧ m.isTyped = false) : s'.Backed v := by
  obtain ⟨hfull', call, ending, o, since, hlast, hcall, huntouched, hanswers⟩ :=
    h
  refine ⟨hfull.trans hfull', call, ending, o, since ++ [m], ?_,
    hcall.trans hsubmission.symm, Mark.forall_mem_snoc huntouched hm.2,
    hanswers⟩
  rw [htrail]
  exact hlast.snoc hm.1

/-- A call that ends without an outcome leaves a sound scene, whether or
not the pad is released. -/
theorem Sound.ended {s : Scene} (h : s.Sound) {place : Nat} {call : Call}
    {f : Fault} (hcall : s.calls[place]? = some call) {p : Pad}
    (hp : p = s.pad ∨ p = s.pad.land) :
    Sound ⟨p, s.calls.eraseIdx place, s.trail ++ [.raised call f]⟩ := by
  have hnil : s.calls.eraseIdx place = [] := (h.only hcall).2
  refine ⟨by simp [hnil], fun hne => absurd hnil hne, ?_, ?_⟩
  · intro c hc
    simp [hnil] at hc
  · intro v hv
    rcases hp with rfl | rfl
    · exact (h.backed v hv).snoc rfl rfl rfl ⟨rfl, rfl⟩
    · exact (h.backed v hv).snoc rfl rfl rfl ⟨rfl, rfl⟩

/-- An answer to a call backs the verdict that the pad takes from it. -/
theorem Sound.answered {s : Scene} (h : s.Sound) {place : Nat} {call : Call}
    {now : Int} {ending : Ending} {o : Outcome} {isStale : Bool}
    (hcall : s.calls[place]? = some call)
    (ho : (s.pad.client.finish now call.flight.started ending).value = .ok o)
    (hs : isStale = (call.flight.generation != s.pad.generation)) :
    Sound
      { pad := s.pad.land.announce isStale (Pad.judged isStale o)
        calls := s.calls.eraseIdx place
        trail := s.trail
          ++ [.returned call ending (Pad.judged isStale o)] } := by
  obtain ⟨hmem, hnil⟩ := h.only hcall
  obtain ⟨⟨between, hunder, huntouched⟩, -, hcurrent, hstale⟩ :=
    h.pending call hmem
  refine ⟨by simp [hnil], fun hne => absurd hnil hne, ?_, ?_⟩
  · intro c hc
    simp [hnil] at hc
  · intro v hv
    by_cases he : call.flight.generation = s.pad.generation
    · -- nothing was touched, so the answer counts and this call is the last
      -- that returned
      obtain rfl : isStale = false := by simp [hs, he]
      obtain ⟨ms, -, hout⟩ := Client.finish_eq_ok ho
      have hok := Ending.isOk_outcome hout
      obtain ⟨hcall', hfull⟩ := hcurrent he
      refine ⟨hfull, call, ending, o, _, hunder.returned ending o, hcall',
        Mark.forall_mem_snoc (huntouched he) rfl, ?_⟩
      simp only [Pad.announce, Pad.judged, Bool.false_eq_true, if_false,
        Option.some.injEq, Outcome.isOk] at hv hok
      cases hres : o.result with
      | success =>
          rw [hres] at hv hok
          subst hv
          obtain ⟨code, rfl, hcode⟩ := hok.mp rfl
          exact ⟨hres, code, rfl, Ending.status_outcome hout, hcode⟩
      | failure =>
          rw [hres] at hv
          subst hv
          exact hres
    · -- a stale answer leaves the verdict as it is, and there is none
      obtain rfl : isStale = true := by simp [hs, he]
      have hnone : s.pad.verdict = some v := hv
      rw [hstale he] at hnone
      cases hnone

/-- An accepted input makes a call under way stale, and clears the
verdict. -/
theorem Sound.typed {s : Scene} (h : s.Sound) (i : Nat) (c : Cell)
    (index raw : Json) :
    Sound
      { s with
        pad := s.pad.store i c
        trail := s.trail ++ [.typed index raw] } := by
  refine ⟨h.single, ?_, ?_, ?_⟩
  · intro hne
    rw [Pad.store_inFlight]
    exact h.held hne
  · intro call hcall
    obtain ⟨⟨between, hunder, -⟩, hle, -, -⟩ := h.pending call hcall
    -- the count has moved on, so the call is stale from here
    have hne : call.flight.generation ≠ (s.pad.store i c).generation := by
      rw [Pad.store_generation]
      omega
    refine ⟨⟨_, hunder.snoc ⟨rfl, rfl⟩, fun he => absurd he hne⟩, ?_,
      fun he => absurd he hne, fun _ => Pad.store_verdict ..⟩
    rw [Pad.store_generation]
    omega
  · intro v hv
    rw [Pad.store_verdict] at hv
    cases hv

/-- A focus event changes nothing that a call or a verdict rests on. -/
theorem Sound.focused {s : Scene} (h : s.Sound) (i : Nat) (index : Json) :
    Sound
      { s with
        pad := { s.pad with version := s.pad.version + 1 }.select i
        trail := s.trail ++ [.focused index] } := by
  refine ⟨h.single, h.held, ?_, ?_⟩
  · intro call hcall
    obtain ⟨⟨between, hunder, huntouched⟩, hle, hcurrent, hstale⟩ :=
      h.pending call hcall
    refine ⟨⟨_, hunder.snoc ⟨rfl, rfl⟩, ?_⟩, hle, hcurrent, hstale⟩
    intro he
    exact Mark.forall_mem_snoc (huntouched he) rfl
  · intro v hv
    exact (h.backed v hv).snoc rfl rfl rfl ⟨rfl, rfl⟩

/-- A submission goes out from a full pad with no call under way. -/
theorem Sound.sent {s : Scene} (h : s.Sound) (hr : s.pad.refusal? = none)
    (now : Int) : (s.depart now).Sound := by
  obtain ⟨hfree, hfull⟩ := (Pad.refusal?_eq_none _).mp hr
  have hnil : s.calls = [] := by
    apply Classical.byContradiction
    intro hne
    rw [h.held hne] at hfree
    cases hfree
  refine ⟨by simp [depart, hnil], fun _ => rfl, ?_, ?_⟩
  · intro call hcall
    simp only [depart, hnil, List.nil_append, List.mem_singleton] at hcall
    subst hcall
    refine ⟨⟨[], ⟨⟨s.trail, rfl⟩, ?_⟩, ?_⟩, Nat.le_refl _,
      fun _ => ⟨rfl, hfull⟩, fun hne => absurd rfl hne⟩
    · exact fun _ hm => absurd hm List.not_mem_nil
    · exact fun _ _ hm => absurd hm List.not_mem_nil
  · intro v hv
    exact (h.backed v hv).snoc rfl rfl rfl ⟨rfl, rfl⟩

/-- Every change keeps a scene sound. -/
theorem Change.sound {s s' : Scene} (hch : Change s s') (h : s.Sound) :
    s'.Sound := by
  cases hch with
  | nothing => exact h
  | typed hi hc => exact h.typed ..
  | focused hi => exact h.focused ..
  | sent hr => exact h.sent hr _
  | returned hcall ho hs => exact h.answered hcall ho hs
  | raised hcall hf hn => exact h.ended hcall (.inr rfl)
  | interrupted hcall hf hn => exact h.ended hcall (.inl rfl)

/-- Every run of a new pad is sound. -/
theorem sound_run (u : Json) (c : Client) (n : Nat) (moves : List Move) :
    ((Scene.new u c n).run moves).Sound :=
  run_induction (fun _ _ hch => hch.sound) moves _ (sound_new u c n)

-- ========================================================== the verdict

/-- The phase of a sound scene is backed by what is told. -/
theorem Sound.told {s : Scene} (h : s.Sound) :
    let request := (s.pad.client.request s.pad.submission).toOption
    (s.pad.phase = .success → s.pad.submitEnabled = true
        ∧ ∃ o code, Told.Backs s.told request o ∧ o.result = .success
          ∧ o.status = some code ∧ 200 ≤ code ∧ code < 300)
      ∧ (s.pad.phase = .error → s.pad.submitEnabled = true
        ∧ ∃ o, Told.Backs s.told request o ∧ o.result = .failure) := by
  intro request
  constructor
  · intro hphase
    obtain ⟨hfull, call, ending, o, since, hlast, hcall, huntouched, hres,
      code, -, hcode⟩ := h.backed _ (Pad.phase_eq_success.mp hphase).2
    have hbacks := hlast.told huntouched s.pad.client
    rw [hcall] at hbacks
    exact ⟨hfull, o, code, hbacks, hres, hcode⟩
  · intro hphase
    obtain ⟨hfull, call, ending, o, since, hlast, hcall, huntouched, hres⟩ :=
      h.backed _ (Pad.phase_eq_error.mp hphase).2
    have hbacks := hlast.told huntouched s.pad.client
    rw [hcall] at hbacks
    exact ⟨hfull, o, hbacks, hres⟩

/-- A pad of `n` cells shows success, or failure, only when all of its
cells are filled, the last submission that returned an outcome was sent
with just the digits they hold, no input has been accepted since it was
sent, and it was answered by a status from 200 to 299, or has failed. For
a state that a script shows, the answers up to there tell of such a
submission, with the request that is made for these digits. -/
theorem phase_backed_by_last_return (u : Json) (c : Client) (n : Nat)
    (moves : List Move) :
    let s := (Scene.new u c n).run moves
    (s.pad.phase = .success →
      (s.pad.cells.length = n ∧ ∀ cell ∈ s.pad.cells, cell.isSome = true)
        ∧ ∃ call ending o since, LastReturned s.trail call ending o since
            ∧ call.submission.pin = .str s.pad.candidate
            ∧ Untouched since
            ∧ o.result = .success
            ∧ ∃ code, ending = .status code ∧ 200 ≤ code ∧ code < 300)
      ∧ (s.pad.phase = .error →
        (s.pad.cells.length = n ∧ ∀ cell ∈ s.pad.cells, cell.isSome = true)
          ∧ ∃ call ending o since, LastReturned s.trail call ending o since
              ∧ call.submission.pin = .str s.pad.candidate
              ∧ Untouched since
              ∧ o.result = .failure)
      ∧ ∀ now steps,
          let answers := (Pad.service.runSteps now s.pad steps).1
          ∀ view ∈ Step.allViews s.told steps answers,
            let request := (c.request ⟨u, .str view.2.candidate⟩).toOption
            (view.2.phase = .success → view.2.submitEnabled = true
                ∧ ∃ o code, Told.Backs view.1 request o ∧ o.result = .success
                  ∧ o.status = some code ∧ 200 ≤ code ∧ code < 300)
              ∧ (view.2.phase = .error → view.2.submitEnabled = true
                ∧ ∃ o, Told.Backs view.1 request o ∧ o.result = .failure) := by
  intro s
  have hsound : s.Sound := sound_run u c n moves
  have hlength : s.pad.cells.length = n := by
    rw [(run_frame _ moves).1]
    exact List.length_replicate
  refine ⟨?_, ?_, ?_⟩
  · intro hphase
    obtain ⟨hfull, call, ending, o, since, hlast, hcall, huntouched, hres,
      code, hending, -, hcode⟩ :=
        hsound.backed _ (Pad.phase_eq_success.mp hphase).2
    refine ⟨⟨hlength, List.all_eq_true.mp hfull⟩, call, ending, o, since, hlast,
      ?_, huntouched, hres, code, hending, hcode⟩
    rw [hcall]
    rfl
  · intro hphase
    obtain ⟨hfull, call, ending, o, since, hlast, hcall, huntouched, hres⟩ :=
      hsound.backed _ (Pad.phase_eq_error.mp hphase).2
    refine ⟨⟨hlength, List.all_eq_true.mp hfull⟩, call, ending, o, since, hlast,
      ?_, huntouched, hres⟩
    rw [hcall]
    rfl
  · intro now steps answers view hview
    obtain ⟨more, hpad, htold⟩ := s.shows_of_script now steps view hview
    have hrun : (new u c n).run (moves ++ more) = s.run more := run_append ..
    have hsound' : (s.run more).Sound := hrun ▸ sound_run u c n (moves ++ more)
    obtain ⟨-, hclient, hid⟩ := run_frame (new u c n) (moves ++ more)
    have hbacked := hsound'.told
    rw [hrun] at hclient hid
    rw [Pad.submission, hclient, hid, hpad, htold] at hbacked
    exact hbacked

end Scene

end DevicePairing
