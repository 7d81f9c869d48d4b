/-
The registry under keys of any kind.

Whole numbers, truth values and numbers of the 64-bit format are one key
where they are the same number; a list or an object is no key.
-/
import DevicePairing.Fault
import DevicePairing.Json.Display
import DevicePairing.Registry

namespace DevicePairing

namespace Json

/-- Whether two values are one key. -/
def sameKey (a b : Json) : Bool :=
  match a, b with
  | .null, .null => true
  | .str s, .str t => s = t
  | .float x, .float y => x.sameNumber y
  | .float x, v =>
    match v.wholeNumber? with | some n => x.equalsInt n | none => false
  | v, .float x =>
    match v.wholeNumber? with | some n => x.equalsInt n | none => false
  | v, w =>
    match v.wholeNumber?, w.wholeNumber? with
    | some m, some n => m = n
    | _, _ => false

instance : BEq Json := ⟨sameKey⟩

/-- A value as a key. -/
def key? (v : Json) : Except Fault Json :=
  match v with
  | .arr _ | .obj _ =>
    .error ⟨.type, "unhashable type: '" ++ Text.ofString v.kindName ++ "'"⟩
  | v => .ok v

end Json

/-- A registry whose keys and PINs come from outside; a null is no PIN. -/
abbrev Pairings := Registry Json Json

namespace Pairings

/-- What may be asked of the registry. -/
inductive Call where
  | register (id : Json)
  | receivePin (id pin : Json)
  | unpair (id : Json)
  | pinFor (id : Json)
  | pending

/-- A PIN from outside. -/
def pinOf : Json → Option Json
  | .null => none
  | v => some v

/-- One call: what it gives back, the lines it prints, and the registry
after it. -/
def answer (r : Pairings) : Call → Except Fault (Json × List Text × Pairings)
  | .register id => do
    let id ← id.key?
    .ok (.null, [Registry.waitingLine id.text], r.register id)
  | .receivePin id pin => do
    let id ← id.key?
    let (known, r) := r.receivePin id (pinOf pin)
    .ok (.bool known, [], r)
  | .unpair id => do
    let id ← id.key?
    let (known, r) := r.unpair id
    .ok (.bool known, [], r)
  | .pinFor id => do
    let id ← id.key?
    .ok ((r.pinFor id).getD .null, [], r)
  | .pending => .ok (.arr r.pending, [], r)

end Pairings

end DevicePairing
