/-
Lines of a file.

A line ends at a line feed, a carriage return, or the two together, and
is read with a single line feed in their place. What follows the last
end is a line too, without one.
-/
import DevicePairing.Text.CodePoint

namespace DevicePairing.Text

/-- The lines of a text, each with its end read as a line feed. -/
def lines : Text → List Text
  | [] => []
  | .char '\r' :: .char '\n' :: t => [.char '\n'] :: lines t
  | .char '\r' :: t => [.char '\n'] :: lines t
  | .char '\n' :: t => [.char '\n'] :: lines t
  | c :: t =>
    match lines t with
    | [] => [[c]]
    | l :: ls => (c :: l) :: ls

/-- Whether a line has its end. -/
def isEnded (l : Text) : Bool := l.getLast? == some (.char '\n')

/-- The lines that are known to be complete while more text may follow: a
carriage return at the very end may be half of an end. -/
def completeLines (t : Text) : List Text :=
  let t := if t.getLast? = some (.char '\r') then t.dropLast else t
  (lines t).filter isEnded

end DevicePairing.Text
