/-
Several journals side by side.

A desk has slots, each with a writer in it or none, over one store and
one wall clock. Opening puts a new writer in a slot and then closes the
one that was there; an opening that fails leaves the slot as it was.
-/
import DevicePairing.Journal.Writer
import DevicePairing.Pairings

namespace DevicePairing.Journal

/-- Writers in slots, and what they share. -/
structure Desk where
  store : Store
  clock : Json
  slots : List (Json × Writer) := []

/-- What may be done at a desk. -/
inductive Order where
  | openAt (slot : Json) (directory : Text)
  | append (slot uniqueId : Json) (report : Except Fault Report)
  | close (slot : Json)
  | files (contents : List (Place × Content))

/-- What comes of it. -/
inductive Receipt where
  | opened (tablePath : Text)
  | appended (id : Int)
  | closed
  | written

namespace Desk

/-- The sum of two readings; whole numbers stay whole. -/
def sum (a b : Json) : Json :=
  match a.wholeNumber?, b.wholeNumber? with
  | some m, some n => .int (m + n)
  | _, _ =>
    match a.toBinary64, b.toBinary64 with
    | .ok x, .ok y => .float (x.add y)
    | _, _ => a

/-- The desk after some time. -/
def wait (d : Desk) (seconds : Json) : Desk :=
  { d with clock := sum d.clock seconds }

/-- The writer in a slot. -/
def writer? (d : Desk) (slot : Json) : Except Fault Writer := do
  let slot ← slot.key?
  match d.slots.find? (·.1 == slot) with
  | some (_, w) => .ok w
  | none => .error ⟨.key, slot.display⟩

/-- The desk with a writer in a slot. A new slot comes behind the others. -/
def setWriter (d : Desk) (slot : Json) (w : Writer) : Desk :=
  if d.slots.any (·.1 == slot) then
    { d with
      slots := d.slots.map fun (k, v) => if k == slot then (k, w) else (k, v) }
  else { d with slots := d.slots ++ [(slot, w)] }

/-- Close the writer in a slot, if there is one. -/
def vacate (d : Desk) (slot : Json) : Desk :=
  match d.writer? slot with
  | .ok w =>
    let (w, store) := w.close d.store
    { d with store }.setWriter slot w
  | .error _ => d

/-- Carry out an order. -/
def carryOut (d : Desk) : Order → Logged (Except Fault Receipt) × Desk
  | .openAt slot directory =>
    let (⟨result, log⟩, store) := Journal.openAt d.store directory d.clock
    let d := { d with store }
    match result with
    | .ok w =>
      (⟨.ok (.opened w.tablePath), log⟩, (d.vacate slot).setWriter slot w)
    | .error f => (⟨.error f, log⟩, d)
  | .append slot uniqueId report =>
    match d.writer? slot, report with
    | .error f, _ => (⟨.error f, []⟩, d)
    | .ok _, .error f => (⟨.error f, []⟩, d)
    | .ok w, .ok r =>
      let (result, w, store) := w.append d.store uniqueId r d.clock
      (⟨result.map .appended, []⟩, { d with store }.setWriter slot w)
  | .close slot =>
    match d.writer? slot with
    | .error f => (⟨.error f, []⟩, d)
    | .ok w =>
      let (w, store) := w.close d.store
      (⟨.ok .closed, []⟩, { d with store }.setWriter slot w)
  | .files contents =>
    (⟨.ok .written, []⟩,
      { d with store := contents.foldl (fun s (p, c) => s.put p c) d.store })

/-- The desk with every writer closed. -/
def closeAll (d : Desk) : Desk :=
  d.slots.foldl (fun d (slot, _) => d.vacate slot) d

end Desk

end DevicePairing.Journal
