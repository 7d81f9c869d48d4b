/-
Pads under a veil.

A veil hides the digits of a pad and leaves everything else to be seen:
which cells are filled, the focus, the counters, the banners. A pad does
not look behind it. Whatever happens to it, what becomes of the pad under
the veil is decided by the veiled pad (`store_veiled`, `conclude_veiled`),
so two pads that are alike under the veil stay alike, print the same and
return the same.

The one thing that a pad does with its digits is to hand them to the
client, and what the client makes of them is in `Discretion`. So a
submission from two pads that are alike goes the same way too
(`startSubmit_alike`), and prints the same, unless the client discloses
what it was asked to submit.
-/
import DevicePairing.Proofs.Discretion
import DevicePairing.Proofs.Pad.Cell
import DevicePairing.Proofs.Pad.Service

namespace DevicePairing

open Pad (Event Flight)

-- =============================================================== the veil

/-- A cell that shows whether it is filled. -/
def Cell.veiled (c : Cell) : Cell := c.map fun _ => ⟨0, by decide⟩

namespace Pad

/-- A pad with its digits hidden. -/
def veiled (p : Pad) : Pad := { p with cells := p.cells.map Cell.veiled }

/-- Pads that differ in nothing but the digits of their filled cells. -/
def Alike (p q : Pad) : Prop := p.veiled = q.veiled

variable {p q : Pad}

theorem isSome_veiled (c : Cell) : c.veiled.isSome = c.isSome := by
  cases c <;> rfl

/-- Cells are alike if both are filled or both are empty. -/
theorem veiled_congr {c d : Cell} (h : c.isSome = d.isSome) :
    c.veiled = d.veiled := by
  cases c with
  | none =>
      cases d with
      | none => rfl
      | some e => cases h
  | some e =>
      cases d with
      | none => cases h
      | some f => rfl

@[simp] theorem cellCount_veiled (p : Pad) : p.veiled.cellCount = p.cellCount :=
  List.length_map _

/-- A veil hides which digits were entered, but not how many. -/
theorem length_candidate_veiled (p : Pad) :
    p.veiled.candidate.length = p.candidate.length := by
  show ((p.cells.map Cell.veiled).flatMap Cell.text).length
    = (p.cells.flatMap Cell.text).length
  simp only [List.length_flatMap, List.map_map]
  congr 2
  funext c
  cases c <;> rfl

/-- So a submission is refused by what can be seen. -/
theorem refusal?_veiled (p : Pad) : p.veiled.refusal? = p.refusal? := by
  have hflight : p.veiled.inFlight = p.inFlight := rfl
  rw [refusal?, refusal?, hflight, length_candidate_veiled, cellCount_veiled]

/-- Whether a cell is filled can be seen as well. -/
theorem contentLength_veiled (p : Pad) (i : Nat) :
    p.veiled.contentLength i = p.contentLength i := by
  have hcell : p.veiled.cells[i]? = p.cells[i]?.map Cell.veiled :=
    List.getElem?_map ..
  unfold contentLength
  rw [hcell]
  rcases p.cells[i]? with _ | _ | d <;> rfl

/-- A cell is selected under the veil. -/
theorem select_veiled (p : Pad) (i : Nat) :
    (p.select i).veiled = p.veiled.select i := by
  rw [select, select, contentLength_veiled]
  rfl

/-- The caret is placed under the veil. -/
theorem placeCaret_veiled (p : Pad) (i : Nat) :
    (p.placeCaret i).veiled = p.veiled.placeCaret i := by
  rw [placeCaret, placeCaret, contentLength_veiled]
  rfl

/-- A digit is stored under the veil. -/
theorem store_veiled (p : Pad) (i : Nat) (c : Cell) :
    (p.store i c).veiled = p.veiled.store i c.veiled := by
  have hcells : (p.cells.set i c).map Cell.veiled
      = (p.cells.map Cell.veiled).set i c.veiled := List.map_set
  unfold store
  dsimp only
  rw [isSome_veiled, cellCount_veiled]
  split
  · rw [select_veiled]
    simp only [veiled, hcells]
  · rw [placeCaret_veiled]
    simp only [veiled, hcells]

/-- A submission ends under the veil. -/
theorem conclude_veiled (p : Pad) (generation : Nat)
    (result : Except Fault Outcome) :
    p.veiled.conclude generation result
      = ((p.conclude generation result).1,
          (p.conclude generation result).2.veiled) := by
  unfold conclude
  cases result with
  | error f => dsimp only; split <;> rfl
  | ok o => rfl

/-- And so it does with what the client made of its response: the client
is told nothing of the digits at the end. -/
theorem finishSubmit_veiled (p : Pad) (now : Int) (flight : Flight)
    (ending : Ending) :
    p.veiled.finishSubmit now flight ending
      = ((p.finishSubmit now flight ending).1,
          (p.finishSubmit now flight ending).2.veiled) := by
  have hfinish (p : Pad) : p.finishSubmit now flight ending
      = let own := p.client.finish now flight.started ending
        let ended := p.conclude flight.generation own.value
        (⟨ended.1.value, own.log ++ ended.1.log⟩, ended.2) := rfl
  rw [hfinish, hfinish]
  dsimp only
  rw [conclude_veiled]
  rfl

-- ================================================================== alike

namespace Alike

theorem cellCount (h : Alike p q) : p.cellCount = q.cellCount := by
  rw [← cellCount_veiled p, ← cellCount_veiled q, h]

/-- Of two pads that are alike, both take a submission or neither does. -/
theorem refusal? (h : Alike p q) : p.refusal? = q.refusal? := by
  rw [← refusal?_veiled p, ← refusal?_veiled q, h]

/-- What is done under the veil is done alike. -/
theorem map (h : Alike p q) (act : Pad → Pad)
    (hact : ∀ p, (act p).veiled = act p.veiled) : Alike (act p) (act q) := by
  rw [Alike, hact, hact, h]

/-- Cells that are alike are stored alike. -/
theorem store (h : Alike p q) (i : Nat) {c d : Cell}
    (hcell : c.veiled = d.veiled) :
    Alike (p.store i c) (q.store i d) := by
  rw [Alike, store_veiled, store_veiled, h, hcell]

/-- A submission ends alike, and in the same words. -/
theorem conclude (h : Alike p q) (generation : Nat)
    (result : Except Fault Outcome) :
    (p.conclude generation result).1 = (q.conclude generation result).1
      ∧ Alike (p.conclude generation result).2
        (q.conclude generation result).2 := by
  have hp := conclude_veiled p generation result
  rw [h, conclude_veiled] at hp
  exact ⟨(congrArg Prod.fst hp).symm, (congrArg Prod.snd hp).symm⟩

/-- And so it does when its response has come. -/
theorem finishSubmit (h : Alike p q) (now : Int) (flight : Flight)
    (ending : Ending) :
    (p.finishSubmit now flight ending).1 = (q.finishSubmit now flight ending).1
      ∧ Alike (p.finishSubmit now flight ending).2
        (q.finishSubmit now flight ending).2 := by
  have hp := finishSubmit_veiled p now flight ending
  rw [h, finishSubmit_veiled] at hp
  exact ⟨(congrArg Prod.fst hp).symm, (congrArg Prod.snd hp).symm⟩

end Alike

-- ================================================================= events

/-- Events that look the same under the veil: inputs of other digits to the
same cell, or any event and itself. -/
inductive Event.Alike : Event → Event → Prop
  | input {index raw raw' : Json}
      (h : (Cell.ofInput raw).map Cell.veiled
        = (Cell.ofInput raw').map Cell.veiled) :
      Event.Alike (.input index raw) (.input index raw')
  | same (e : Event) : Event.Alike e e

/-- Inputs that look the same are accepted or refused alike. -/
theorem input_alike (h : Alike p q) (index : Json) {raw raw' : Json}
    (hraw : (Cell.ofInput raw).map Cell.veiled
      = (Cell.ofInput raw').map Cell.veiled) (now : Int) :
    (Pad.start now (.input index raw) p).1.log
        = (Pad.start now (.input index raw') q).1.log
      ∧ Alike (Pad.start now (.input index raw) p).2
        (Pad.start now (.input index raw') q).2 := by
  simp only [Pad.start, onInput, index?_congr h.cellCount index, bind,
    Except.bind]
  cases q.index? index with
  | error f => exact ⟨rfl, h⟩
  | ok i =>
      cases hc : Cell.ofInput raw with
      | error f =>
          cases hd : Cell.ofInput raw' with
          | error g => exact ⟨rfl, h⟩
          | ok d =>
              rw [hc, hd] at hraw
              cases hraw
      | ok c =>
          cases hd : Cell.ofInput raw' with
          | error g =>
              rw [hc, hd] at hraw
              cases hraw
          | ok d =>
              rw [hc, hd] at hraw
              exact ⟨rfl, h.store i (Except.ok.inj hraw)⟩

/-- An event that sends nothing is served alike, and prints the same. -/
theorem start_alike (h : Alike p q) {e e' : Event} (he : e.Alike e')
    (hunsent : e = .submit → p.refusal? ≠ none) (now : Int) :
    (Pad.start now e p).1.log = (Pad.start now e' q).1.log
      ∧ Alike (Pad.start now e p).2 (Pad.start now e' q).2 := by
  cases he with
  | input hraw => exact input_alike h _ hraw now
  | same =>
      cases e with
      | input index raw => exact input_alike h index rfl now
      | focus index =>
          simp only [Pad.start, onFocus, index?_congr h.cellCount index, bind,
            Except.bind]
          cases q.index? index with
          | error f => exact ⟨rfl, h⟩
          | ok i =>
              exact ⟨rfl, h.map
                (fun p => { p with version := p.version + 1 }.select i)
                fun _ => select_veiled _ i⟩
      | submit =>
          cases hp : p.refusal? with
          | none => exact absurd hp (hunsent rfl)
          | some line =>
              have hq := hp
              rw [h.refusal?] at hq
              unfold Pad.start
              rw [startSubmit_of_refusal hp, startSubmit_of_refusal hq]
              exact ⟨rfl, h⟩
      | observe => exact ⟨rfl, h⟩

-- ============================================================ submissions

/-- A full pad holds a PIN of as many digits as it has cells. -/
theorem isPin_candidate (hfull : p.submitEnabled = true) :
    p.candidate.IsPin p.cellCount := by
  refine ⟨(submitEnabled_iff p).mp hfull, fun a ha => ?_⟩
  obtain ⟨c, -, ha⟩ := List.mem_flatMap.mp ha
  cases c with
  | none => cases ha
  | some d =>
      rw [List.mem_singleton.mp ha]
      exact d.isDigit_char

/-- A call that ends at once is concluded at once. -/
theorem startSubmit_of_done {result : Except Fault Outcome} {log : List Text}
    {now : Int} (hgo : p.refusal? = none)
    (h : p.client.start now p.submission = ⟨.done result, log⟩) :
    p.startSubmit now
      = let ended := p.depart.conclude p.generation result
        (⟨.done ended.1.value, p.departureLine :: log ++ ended.1.log⟩,
          ended.2) := by
  simp only [startSubmit, hgo, h]

/-- One that waits is kept with the count of inputs so far. -/
theorem startSubmit_of_waiting {request : Request} {t₀ now : Int}
    (hgo : p.refusal? = none)
    (h : p.client.start now p.submission = ⟨.waiting request t₀, []⟩) :
    p.startSubmit now = (⟨.waiting request ⟨p.generation, t₀⟩,
      [p.departureLine]⟩, p.depart) := by
  simp only [startSubmit, hgo, h]

/-- How a submission begins from two pads that are alike: both are refused
or over or wait, and print the same; or both are over and what is printed
holds the PIN. -/
inductive SubmitsAlike (p q : Pad) :
    Logged (Opening (Option Outcome) Flight) × Pad →
    Logged (Opening (Option Outcome) Flight) × Pad → Prop
  | done {result : Except Fault (Option Outcome)} {log : List Text} {s t : Pad}
      (hsilent : p.refusal? = none → p.client.discloses p.submission = false)
      (h : Alike s t) :
      SubmitsAlike p q (⟨.done result, log⟩, s) (⟨.done result, log⟩, t)
  | waiting {request request' : Request} {flight : Flight} {log : List Text}
      {s t : Pad} (hsilent : p.client.discloses p.submission = false)
      (hheld : s.inFlight = true) (h : Alike s t) :
      SubmitsAlike p q (⟨.waiting request flight, log⟩, s)
        (⟨.waiting request' flight, log⟩, t)
  | told {result : Except Fault (Option Outcome)} {before l r : Text}
      {after : List Text} {s t : Pad} (hgo : p.refusal? = none)
      (htold : p.client.discloses p.submission = true) (h : Alike s t) :
      SubmitsAlike p q
        (⟨.done result, before :: (l ++ (p.candidate ++ r)) :: after⟩, s)
        (⟨.done result, before :: (l ++ (q.candidate ++ r)) :: after⟩, t)

/-- A submission begins from two pads that are alike as the client begins
with their two PINs. -/
theorem startSubmit_alike (h : Alike p q) (now : Int) :
    SubmitsAlike p q (p.startSubmit now) (q.startSubmit now) := by
  cases hgo : p.refusal? with
  | some line =>
      have hgo' := hgo
      rw [h.refusal?] at hgo'
      rw [startSubmit_of_refusal hgo, startSubmit_of_refusal hgo']
      refine .done (fun hnone => ?_) h
      rw [hgo] at hnone
      cases hnone
  | none =>
      have hgo' := hgo
      rw [h.refusal?] at hgo'
      -- the two submissions differ in nothing but their PIN
      have hpin := isPin_candidate ((refusal?_eq_none p).mp hgo).2
      have hpin' := isPin_candidate ((refusal?_eq_none q).mp hgo').2
      rw [← h.cellCount] at hpin'
      have hclient : q.client = p.client := (congrArg Pad.client h).symm
      have hid : q.uniqueId = p.uniqueId := (congrArg Pad.uniqueId h).symm
      have hline : q.departureLine = p.departureLine := by
        rw [departureLine, departureLine, hid]
      have hgeneration : q.generation = p.generation :=
        (congrArg Pad.generation h).symm
      have hsubmission : q.submission = ⟨p.uniqueId, .str q.candidate⟩ := by
        rw [submission, hid]
      have hdepart : Alike p.depart q.depart := h.map depart fun _ => rfl
      cases p.client.starts p.uniqueId p.cellCount now with
      | done result log hstarts =>
          obtain ⟨hstart, hsilent⟩ := hstarts _ hpin
          obtain ⟨hstart', -⟩ := hstarts _ hpin'
          rw [← hclient, ← hsubmission] at hstart'
          obtain ⟨hended, hleft⟩ := hdepart.conclude p.generation result
          rw [startSubmit_of_done hgo hstart, startSubmit_of_done hgo' hstart',
            hline, hgeneration]
          dsimp only
          rw [← hended]
          exact .done (fun _ => hsilent) hleft
      | waiting hstarts =>
          obtain ⟨⟨request, hstart⟩, hsilent⟩ := hstarts _ hpin
          obtain ⟨⟨request', hstart'⟩, -⟩ := hstarts _ hpin'
          rw [← hclient, ← hsubmission] at hstart'
          rw [startSubmit_of_waiting hgo hstart,
            startSubmit_of_waiting hgo' hstart',
            hline, hgeneration]
          exact .waiting hsilent rfl hdepart
      | told result l r hstarts =>
          obtain ⟨hstart, htold⟩ := hstarts _ hpin
          obtain ⟨hstart', -⟩ := hstarts _ hpin'
          rw [← hclient, ← hsubmission] at hstart'
          obtain ⟨hended, hleft⟩ := hdepart.conclude p.generation result
          rw [startSubmit_of_done hgo hstart, startSubmit_of_done hgo' hstart',
            hline, hgeneration]
          dsimp only
          rw [← hended]
          exact .told hgo htold hleft

end Pad

end DevicePairing
