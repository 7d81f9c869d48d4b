/-
What a submission prints.

Two submissions of PINs of one length, from pads that are otherwise the
same and with the same script, print the same lines, those of the events
served meanwhile included. That is so for every address and every way in
which the request can end, with one exception, which is exact: if the
client discloses what it was asked to submit, a line holds the PIN.

The scripts are the same, so the texts of the faults in them are: a fault
that ends a request may quote its URL, but it is fixed beforehand, for both
PINs alike. What is left are the words that the client itself finds while it
makes the request. With an address that begins with `http://` or `https://`
they never hold the PIN; with one whose scheme only begins like theirs,
`httpx` for one, they do whenever the URL can be made, whatever the script
that its host is named in.
-/
import DevicePairing.Proofs.Pad.Veil

namespace DevicePairing

mutual

/-- The lines of an answer: those of the steps served meanwhile, then its
own. -/
def Answer.logs {σ β : Type} : Answer σ β → List (List Text)
  | ⟨_, log, _, nested, _⟩ => logsOf nested ++ [log]

/-- The lines of some answers. -/
def Answer.logsOf {σ β : Type} : List (Answer σ β) → List (List Text)
  | [] => []
  | answer :: answers => answer.logs ++ logsOf answers

end

namespace Pad

variable {p q : Pad}

/-- During a flight, pads that are alike print the same. -/
theorem logsOf_inFlight (now : Int) : ∀ (steps : List (Step Event)) {p q : Pad},
    Alike p q → p.inFlight = true →
      let served := service.runSteps now p steps
      let served' := service.runSteps now q steps
      Answer.logsOf served.1 = Answer.logsOf served'.1
        ∧ served.2.1 = served'.2.1 ∧ Alike served.2.2 served'.2.2
  | [], _, _, h, _ => ⟨rfl, rfl, h⟩
  | ⟨e, delay, during, ending⟩ :: steps, p, q, h, hheld => by
      have hrefused {p : Pad} (hheld : p.inFlight = true) :
          e = .submit → p.refusal? ≠ none := fun _ => refusal?_of_inFlight hheld
      have hheld' : q.inFlight = true := (congrArg inFlight h).symm.trans hheld
      obtain ⟨result, log, hstart, -⟩ :=
        Scene.start_of_unsent (s := ⟨p, [], []⟩) (hrefused hheld) now
      obtain ⟨result', log', hstart', -⟩ :=
        Scene.start_of_unsent (s := ⟨q, [], []⟩) (hrefused hheld') now
      obtain ⟨hlog, hnext⟩ := start_alike h (.same e) (hrefused hheld) now
      rw [hstart, hstart'] at hlog hnext
      have hmean := Scene.meanwhile_serve (s := ⟨p, [], []⟩) hheld now e
      obtain ⟨hlogs, hnow, hlast⟩ :=
        logsOf_inFlight now steps hnext hmean.held
      rw [Service.runSteps_cons, Service.runSteps_cons,
        Service.runStep_done hstart, Service.runStep_done hstart']
      refine ⟨?_, hnow, hlast⟩
      simp only [Answer.logsOf, Answer.logs, List.nil_append]
      rw [hlogs]
      exact congrArg (fun log => [log] ++ _) hlog

/-- A submission that goes out from one of two pads that are alike goes out
from the other. Both print the same, unless the client discloses the PIN. -/
theorem logs_submit (h : Alike p q) (now delay : Int)
    (during : List (Step Event))
    (ending : Ending) :
    let answer := (service.runStep now p ⟨.submit, delay, during, ending⟩).1
    let answer' := (service.runStep now q ⟨.submit, delay, during, ending⟩).1
    ((p.refusal? = none → p.client.discloses p.submission = false) →
        answer.logs = answer'.logs)
      ∧ (p.refusal? = none → p.client.discloses p.submission = true →
        ∃ before after l r,
          answer.log = before :: (l ++ (p.candidate ++ r)) :: after
            ∧ answer.logs = [before :: (l ++ (p.candidate ++ r)) :: after]
            ∧ answer'.logs
              = [before :: (l ++ (q.candidate ++ r)) :: after]) := by
  have hbegins := startSubmit_alike h now
  rcases hp : p.startSubmit now with ⟨⟨opening, log⟩, s⟩
  rcases hq : q.startSubmit now with ⟨⟨opening', log'⟩, t⟩
  rw [hp, hq] at hbegins
  have hstart : service.start now .submit p = Pad.start now .submit p := rfl
  have hstart' : service.start now .submit q = Pad.start now .submit q := rfl
  unfold Pad.start at hstart hstart'
  rw [hp] at hstart
  rw [hq] at hstart'
  cases hbegins with
  | done hsilent hst =>
      rw [Service.runStep_done hstart, Service.runStep_done hstart']
      refine ⟨fun _ => rfl, fun hgo htold => ?_⟩
      rw [hsilent hgo] at htold
      cases htold
  | waiting hsilent hheld hst =>
      obtain ⟨hlogs, hnow, hlast⟩ :=
        logsOf_inFlight (now + delay) during hst hheld
      rw [Service.runStep_waiting hstart, Service.runStep_waiting hstart']
      refine ⟨fun _ => ?_, fun _ htold => ?_⟩
      · dsimp only
        rw [Answer.logs, Answer.logs, hlogs, ← hnow]
        exact congrArg (fun log => _ ++ [_ ++ log])
          (congrArg Logged.log (hlast.finishSubmit _ _ ending).1)
      · rw [hsilent] at htold
        cases htold
  | told hgo htold hst =>
      rw [Service.runStep_done hstart, Service.runStep_done hstart']
      refine ⟨fun hsilent => ?_, fun _ _ => ⟨_, _, _, _, rfl, rfl, rfl⟩⟩
      rw [hsilent hgo] at htold
      cases htold

-- ============================================================== full pads

/-- Full pads of one length are alike, whatever their digits. -/
theorem filled_alike (p : Pad) {ds es : List Digit}
    (h : ds.length = es.length) :
    Alike { p with cells := ds.map some } { p with cells := es.map some } := by
  have hzeros (ds : List Digit) : (ds.map some).map Cell.veiled
      = List.replicate ds.length (Cell.veiled (some ⟨0, by decide⟩)) := by
    rw [List.map_map]
    exact List.map_const'
  simp only [Alike, veiled, hzeros, h]

/-- A full pad submits its digits. -/
theorem candidate_filled (p : Pad) (ds : List Digit) :
    ({ p with cells := ds.map some } : Pad).candidate
      = ds.map fun d => .char d.char := by
  show (ds.map some).flatMap Cell.text = _
  rw [List.flatMap_map, List.map_eq_flatMap]
  rfl

theorem submitEnabled_filled (p : Pad) (ds : List Digit) :
    ({ p with cells := ds.map some } : Pad).submitEnabled = true := by
  show (ds.map some).all Option.isSome = true
  rw [List.all_map]
  exact List.all_eq_true.mpr fun _ _ => rfl

theorem isPin_filled (p : Pad) (ds : List Digit) :
    ({ p with cells := ds.map some } : Pad).candidate.IsPin ds.length := by
  have hpin := isPin_candidate (submitEnabled_filled p ds)
  have hcount : ({ p with cells := ds.map some } : Pad).cellCount = ds.length :=
    List.length_map _
  rw [hcount] at hpin
  exact hpin

/-- A full pad at rest is not refused. -/
theorem refusal?_filled (p : Pad) (ds : List Digit) :
    ({ p with cells := ds.map some } : Pad).refusal? = none
      ↔ p.inFlight = false := by
  rw [refusal?_eq_none, submitEnabled_filled]
  exact and_iff_left rfl

/-- What a submission prints does not depend on the digits of the PIN, with
one exception: what the client discloses is printed. Two pads that differ
in their PIN alone, and the same script: the lines are the same, those of
the events served meanwhile included, if and only if the PINs are the same
or no submission goes out because one is under way or the client does not
disclose what it is asked to submit; if it does, the PIN stands in a line.
Whether it does is the same for all PINs of one length, and it does not if
the address is that of a web service. -/
theorem log_tells_pin_iff (p : Pad) (ds es : List Digit)
    (h : ds.length = es.length) (now delay : Int) (during : List (Step Event))
    (ending : Ending) :
    let full : Pad := { p with cells := ds.map some }
    let other : Pad := { p with cells := es.map some }
    let answer := (service.runStep now full ⟨.submit, delay, during, ending⟩).1
    let answer' :=
      (service.runStep now other ⟨.submit, delay, during, ending⟩).1
    let told := p.client.discloses full.submission
    (answer.logs = answer'.logs ↔ ds = es ∨ p.inFlight = true ∨ told = false)
      ∧ (p.inFlight = false → told = true →
          ∃ line ∈ answer.log, ∃ l r, line = l ++ (full.candidate ++ r))
      ∧ p.client.discloses other.submission = told
      ∧ (Url.isServed p.client.endpoint.trimLeft = true → told = false) := by
  intro full other answer answer' told
  have hgo : full.refusal? = none ↔ p.inFlight = false := refusal?_filled p ds
  obtain ⟨hsame, htold⟩ :=
    logs_submit (filled_alike p h) now delay during ending
  have hinj : full.candidate = other.candidate ↔ ds = es := by
    have hchars : ∀ d e : Digit,
        CodePoint.char d.char = .char e.char → d = e := by decide
    rw [candidate_filled, candidate_filled, List.map_inj_right hchars]
  refine ⟨⟨fun hlogs => ?_, fun hcases => ?_⟩, fun hheld hdiscloses => ?_, ?_,
    fun hserved => Client.discloses_of_isServed hserved _⟩
  · cases hheld : p.inFlight with
    | true => exact .inr (.inl rfl)
    | false =>
        cases hdiscloses : told with
        | false => exact .inr (.inr rfl)
        | true =>
            obtain ⟨before, after, l, r, -, hfull, hother⟩ :=
              htold (hgo.mpr hheld) hdiscloses
            rw [hfull, hother] at hlogs
            have hlines := (List.cons.inj hlogs).1
            have hline := (List.cons.inj (List.cons.inj hlines).2).1
            exact .inl (hinj.mp
              (List.append_cancel_right (List.append_cancel_left hline)))
  · rcases hcases with rfl | hheld | hdiscloses
    · rfl
    · refine hsame fun hnone => ?_
      rw [hgo.mp hnone] at hheld
      cases hheld
    · exact hsame fun _ => hdiscloses
  · obtain ⟨before, after, l, r, hlog, -, -⟩ := htold (hgo.mpr hheld) hdiscloses
    refine ⟨l ++ (full.candidate ++ r), ?_, l, r, rfl⟩
    rw [hlog]
    exact List.mem_cons_of_mem _ List.mem_cons_self
  · have hother := isPin_filled p es
    rw [← h] at hother
    exact p.client.discloses_congr p.uniqueId hother (isPin_filled p ds)

/-- At an address whose scheme only begins like one of the web's the PIN is
printed, and so it is if the host has an accent and is asked for by its
name on the wire. -/
theorem log_tells_pin_of_httpx :
    let plain : Client := ⟨"httpx://localhost:5000", .int 5, {}⟩
    let names : Url.HostNames :=
      .ofTable [("bücher.example", "xn--bcher-kva.example")]
    let named : Client :=
      ⟨"httpx://bücher.example", .int 5, { names, netrc := none }⟩
    [(1 : Digit), 2].length = [(1 : Digit), 3].length
      ∧ ∀ client ∈ [plain, named],
        let pad := Pad.new (.str "A1") client 2
        let full : Pad := { pad with cells := [1, 2].map some }
        let other : Pad := { pad with cells := [1, 3].map some }
        client.discloses full.submission = true
          ∧ (service.runStep 0 full ⟨.submit, 0, [], .status 200⟩).1.logs
            ≠ (service.runStep 0 other ⟨.submit, 0, [], .status 200⟩).1.logs
          := by
  intro plain names named
  have hlength : [(1 : Digit), 2].length = [(1 : Digit), 3].length := rfl
  have htold : ∀ client ∈ [plain, named],
      client.discloses ⟨.str "A1", .str "12"⟩ = true := by
    decide +kernel
  refine ⟨hlength, fun client hclient => ?_⟩
  intro pad full other
  obtain ⟨hlogs, -⟩ :=
    log_tells_pin_iff pad [1, 2] [1, 3] hlength 0 0 [] (.status 200)
  refine ⟨htold client hclient, fun hsame => ?_⟩
  rcases hlogs.mp hsame with hpins | hheld | hsilent
  · exact absurd hpins (by decide)
  · cases hheld
  · cases (htold client hclient).symm.trans hsilent

end Pad

end DevicePairing
