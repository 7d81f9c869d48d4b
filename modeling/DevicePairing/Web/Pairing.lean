/-
The pairing endpoint: takes the PINs of the devices that wait for one.

A request names its device, and a PIN is accepted only if it consists of
decimal digits. Whatever is wrong with a request, the answer is the same,
and the registry stays as it was.
-/
import DevicePairing.Exchange
import DevicePairing.Pairings
import DevicePairing.Web.Message

namespace DevicePairing.Web

/-- The devices that wait, and the PINs received. Whoever registers a
device may name it by any key; a request names it by a text. -/
abbrev Waiting := Registry Json Text

/-- Register devices one after the other, with the lines about them. -/
def awaitAll (w : Waiting) : List Json → Logged (Except Fault Waiting)
  | [] => ⟨.ok w, []⟩
  | id :: ids =>
    match id.key? with
    | .error f => ⟨.error f, []⟩
    | .ok id =>
      let ⟨w, log⟩ := awaitAll (w.register id) ids
      ⟨w, Registry.waitingLine id.text :: log⟩

/-- The answer to a request that cannot be served. -/
def invalidRequest : Response := .plain 400 "INVALID REQUEST"

/-- The line for a parameter that is not there. -/
def missingLine (name kind : String) (parameters : List (Text × Text)) : Text :=
  "[Pairing] Expected '" ++ Text.ofString name ++ "' in " ++ Text.ofString kind
    ++ " request, got "
    ++ (Json.arr ((Url.names parameters).map .str)).display

/-- Whether a text is a PIN: decimal digits, at least one. -/
def isPin (t : Text) : Bool := !t.isEmpty && t.all CodePoint.isDigit

/-- Take a PIN. -/
def takePin (w : Waiting) (parameters : List (Text × Text)) :
    Logged Response × Waiting :=
  match Url.firstValue? "uniqueid" parameters with
  | none => (⟨invalidRequest, [missingLine "uniqueid" "pin" parameters]⟩, w)
  | some id =>
    match Url.firstValue? "pin" parameters with
    | none => (⟨invalidRequest, [missingLine "pin" "pin" parameters]⟩, w)
    | some pin =>
      if !isPin pin then
        (⟨invalidRequest, ["[Pairing] Malformed pin for '" ++ id ++ "'"]⟩, w)
      else
        match w.receivePin (.str id) (some pin) with
        | (false, w) =>
          (⟨invalidRequest, ["[Pairing] Unknown unique id '" ++ id ++ "'"]⟩, w)
        | (true, w) =>
          (⟨.plain 200
              ("Successfully received pin for unique id '" ++ id ++ "'."),
            ["[Pairing] Received pin for '" ++ id ++ "'"]⟩, w)

/-- Forget a device. -/
def forget (w : Waiting) (parameters : List (Text × Text)) :
    Logged Response × Waiting :=
  match Url.firstValue? "uniqueid" parameters with
  | none => (⟨invalidRequest, [missingLine "uniqueid" "unpair" parameters]⟩, w)
  | some id =>
    match w.unpair (.str id) with
    | (false, w) =>
      (⟨invalidRequest,
        ["[Pairing] Failed to unpair: unknown unique id '" ++ id ++ "'"]⟩, w)
    | (true, w) =>
      (⟨.plain 200 "Successfully unpaired.",
        ["[Pairing] Successfully unpaired client '" ++ id ++ "'"]⟩, w)

end DevicePairing.Web
