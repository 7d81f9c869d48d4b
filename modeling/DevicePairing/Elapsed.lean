/-
Elapsed time.

The clock counts nanoseconds in whole numbers, so a duration is exact
until it is turned into milliseconds; that is the only rounding.
-/
import DevicePairing.Fault

namespace DevicePairing

/-- The milliseconds from one reading of the clock to another. -/
def elapsedMs (t₀ now : Int) : Except Fault Binary64 :=
  let d := now - t₀
  match Binary64.ofRatio (decide (d < 0)) d.natAbs 1000000 with
  | .finite s m e => .ok (.finite s m e)
  | _ => .error ⟨.overflow, "integer division result too large for a float"⟩

end DevicePairing
