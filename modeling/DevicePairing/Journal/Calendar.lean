/-
Dates of the civil calendar, in universal time.

Days are counted from a first of March, because a year that begins then
has its leap day at the very end: the days before a month follow one rule
for every year, and four hundred years are always the same number of days.
-/
import DevicePairing.Text.CodePoint

namespace DevicePairing

/-- A moment of the calendar, to the second. -/
structure Moment where
  year : Int
  month : Nat
  day : Nat
  hour : Nat
  minute : Nat
  second : Nat
  deriving DecidableEq, Repr

namespace Moment

/-- The year, month and day that lie some days after 1 January 1970. -/
def date (days : Int) : Int × Nat × Nat :=
  let z := days + 719468
  let era := Int.fdiv z 146097
  let dayOfEra := (Int.fmod z 146097).toNat
  let yearOfEra :=
    (dayOfEra - dayOfEra / 1460 + dayOfEra / 36524 - dayOfEra / 146096) / 365
  let dayOfYear :=
    dayOfEra - (365 * yearOfEra + yearOfEra / 4 - yearOfEra / 100)
  let monthFromMarch := (5 * dayOfYear + 2) / 153
  let day := dayOfYear - (153 * monthFromMarch + 2) / 5 + 1
  let month :=
    if monthFromMarch < 10 then monthFromMarch + 3 else monthFromMarch - 9
  let year : Int := yearOfEra + era * 400
  (if month ≤ 2 then year + 1 else year, month, day)

/-- The moment some seconds after the beginning of 1970. -/
def ofSeconds (seconds : Int) : Moment :=
  let (year, month, day) := date (Int.fdiv seconds 86400)
  let rest := (Int.fmod seconds 86400).toNat
  { year, month, day, hour := rest / 3600, minute := rest / 60 % 60,
    second := rest % 60 }

/-- A number below a hundred with two digits. -/
def twoDigits (n : Nat) : Text :=
  [.char (Char.ofNat (48 + n / 10 % 10)), .char (Char.ofNat (48 + n % 10))]

/-- The moment as part of a file name. -/
def stamp (m : Moment) : Text :=
  Text.ofInt m.year ++ twoDigits m.month ++ twoDigits m.day ++ "_"
    ++ twoDigits m.hour ++ twoDigits m.minute ++ twoDigits m.second

end Moment

end DevicePairing
