/-
Devices that wait for a PIN.

The registry keeps the devices in the order in which they were first
registered, each with the PIN received for it, if any. Registering a
device again forgets its PIN and keeps its place; a device that is
unpaired is forgotten altogether. Keys and PINs are whatever the caller
uses for them.
-/
import DevicePairing.Text.CodePoint

namespace DevicePairing

/-- Devices and the PINs received for them. -/
structure Registry (κ π : Type) where
  clients : List (κ × Option π) := []

namespace Registry

variable {κ π : Type} [BEq κ]

/-- Whether a device is known. -/
def isKnown (r : Registry κ π) (id : κ) : Bool := r.clients.any (·.1 == id)

/-- The registry with a new entry for a device, in its place if it is
known and at the end if not. -/
def put (r : Registry κ π) (id : κ) (pin : Option π) : Registry κ π :=
  if r.isKnown id then
    ⟨r.clients.map fun (k, p) => if k == id then (k, pin) else (k, p)⟩
  else ⟨r.clients ++ [(id, pin)]⟩

/-- Wait for the PIN of a device. -/
def register (r : Registry κ π) (id : κ) : Registry κ π := r.put id none

/-- Record the PIN of a device, if it is known. -/
def receivePin (r : Registry κ π) (id : κ) (pin : Option π) :
    Bool × Registry κ π :=
  if r.isKnown id then (true, r.put id pin) else (false, r)

/-- Forget a device, if it is known. -/
def unpair (r : Registry κ π) (id : κ) : Bool × Registry κ π :=
  if r.isKnown id then (true, ⟨r.clients.filter fun (k, _) => !(k == id)⟩)
  else (false, r)

/-- The PIN received for a device. -/
def pinFor (r : Registry κ π) (id : κ) : Option π :=
  (r.clients.find? (·.1 == id)).bind (·.2)

/-- The devices still waiting for a PIN. -/
def pending (r : Registry κ π) : List κ :=
  (r.clients.filter (·.2.isNone)).map (·.1)

/-- The line that tells where the PIN of a device is awaited. -/
def waitingLine (id : Text) : Text :=
  "[Pairing] Waiting for pin to be sent at /submit-pin?uniqueid=" ++ id
    ++ "&pin=<PIN>"

end Registry

end DevicePairing
