import Pageflow.Text.Parts
/-!
Dates of the Gregorian calendar from seconds since 1970.
-/
namespace Pageflow.Calendar

/-- A moment to the second. -/
structure Moment where
  year : Int
  month : Nat
  day : Nat
  hour : Nat
  minute : Nat
  second : Nat
deriving DecidableEq

/-- The date of a day, counted from 1970-01-01: years are counted from March in cycles of 400. -/
def dateOfDay (day : Int) : Int × Nat × Nat :=
  let shifted := day + 719468
  let cycle := shifted.fdiv 146097
  let ofCycle := (shifted - cycle * 146097).toNat
  let year := (ofCycle - ofCycle / 1460 + ofCycle / 36524 - ofCycle / 146096) / 365
  let ofYear := ofCycle - (365 * year + year / 4 - year / 100)
  let march := (5 * ofYear + 2) / 153
  let dayOfMonth := ofYear - (153 * march + 2) / 5 + 1
  let month := if march < 10 then march + 3 else march - 9
  (year + cycle * 400 + (if month ≤ 2 then 1 else 0), month, dayOfMonth)

/-- The moment a number of seconds after the start of 1970. -/
def moment (seconds : Int) : Moment :=
  let day := seconds.fdiv 86400
  let rest := (seconds - day * 86400).toNat
  let (year, month, dayOfMonth) := dateOfDay day
  ⟨year, month, dayOfMonth, rest / 3600, rest / 60 % 60, rest % 60⟩

def two (n : Nat) : String := Text.padLeft 2 (toString n) '0'

/-- Date and time with a `T` in between, the year in `width` digits at least. -/
def Moment.text (width : Nat) (m : Moment) : String :=
  Text.padLeft width (toString m.year) '0' ++ "-" ++ two m.month ++ "-" ++ two m.day ++ "T" ++
    two m.hour ++ ":" ++ two m.minute ++ ":" ++ two m.second

/-- A number of microseconds since 1970 with six digits of a second if it is not whole, followed
by the text of its time zone. -/
def stamp (microseconds : Int) (zone : String) : String :=
  let rest := (microseconds.fmod 1000000).toNat
  (moment (microseconds.fdiv 1000000)).text 4 ++
    (if rest = 0 then "" else "." ++ Text.padLeft 6 (toString rest) '0') ++ zone

end Pageflow.Calendar
