/-
Faults: everything that can go wrong, by cause.

A fault is a kind and a message. What a caller may do about one depends
only on its family: a request that took too long, a request that failed
in some other way, an interrupt that nothing may hold up, or anything
else.
-/
import DevicePairing.Number.Numeral
import DevicePairing.Text.Utf8

namespace DevicePairing

/-- What went wrong. -/
inductive FaultKind where
  /- ends of a request -/
  | timeout
  | connectTimeout
  | readTimeout
  | connection
  | httpStatus
  | tooManyRedirects
  | request
  | tls
  | proxy
  | invalidUrl
  | missingScheme
  | unservedScheme
  | chunkedEncoding
  | contentDecoding
  /- values -/
  | value
  | type
  | key
  | attribute
  | overflow
  | encoding
  | decoding
  | nesting
  | columnValue
  | columnType
  /- the world -/
  | runtime
  | system
  | systemTimeout
  | connectionRefused
  | alreadyExists
  | notDirectory
  | isDirectory
  | noSuchFile
  | interrupt
  | exit
  deriving DecidableEq, Repr

/-- What may be done about a fault. -/
inductive FaultFamily where
  | timeout
  | request
  | other
  | interrupt
  deriving DecidableEq, Repr

/-- The family of a kind. -/
def FaultKind.family : FaultKind → FaultFamily
  | .timeout | .connectTimeout | .readTimeout => .timeout
  | .connection | .httpStatus | .tooManyRedirects | .request | .tls | .proxy
  | .invalidUrl | .missingScheme | .unservedScheme | .chunkedEncoding
  | .contentDecoding => .request
  | .interrupt | .exit => .interrupt
  | _ => .other

/-- Something that went wrong, in words. -/
structure Fault where
  kind : FaultKind
  message : Text
  deriving DecidableEq, Repr

/-- The family of a fault. -/
def Fault.family (f : Fault) : FaultFamily := f.kind.family

-- ================================================== faults of the parts

/-- The fault of a text that is no integer numeral. -/
def Numeral.IntegerFault.fault (f : Numeral.IntegerFault) : Fault :=
  ⟨.value, f.message⟩

/-- Surrogates where only characters can be written. -/
def LoneSurrogate.fault (f : LoneSurrogate) : Fault :=
  let found : Text :=
    if f.count = 1 then
      "character " ++ Text.quoted [.surrogate f.first] ++ " in position "
        ++ Text.ofNat f.offset
    else
      "characters in position " ++ Text.ofNat f.offset ++ "-"
        ++ Text.ofNat (f.offset + f.count - 1)
  ⟨.encoding, "'utf-8' codec can't encode " ++ found
    ++ ": surrogates not allowed"⟩

/-- The words for what is wrong with a stretch of bytes. -/
def Utf8Reason.message : Utf8Reason → String
  | .invalidStart => "invalid start byte"
  | .invalidContinuation => "invalid continuation byte"
  | .unexpectedEnd => "unexpected end of data"

/-- Bytes that are no text. -/
def Utf8Fault.fault (f : Utf8Fault) : Fault :=
  let found : Text :=
    match f.bytes with
    | [b] =>
      "byte 0x" ++ (hexText 2 b.toNat).map CodePoint.char ++ " in position "
        ++ Text.ofNat f.offset
    | bytes =>
      "bytes in position " ++ Text.ofNat f.offset ++ "-"
        ++ Text.ofNat (f.offset + bytes.length - 1)
  ⟨.decoding, "'utf-8' codec can't decode " ++ found ++ ": "
    ++ f.reason.message⟩

/-- The bytes of a text as they are written to a file or a wire. -/
def Text.encode (t : Text) : Except Fault Bytes :=
  match t.strictUtf8 with
  | .ok bytes => .ok bytes
  | .error f => .error f.fault

end DevicePairing
