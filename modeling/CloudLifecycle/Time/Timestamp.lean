/-!
# Calendar time in UTC

`Timestamp.text` writes a count of seconds since 1970 as `YYYY-MM-DDThh:mm:ssZ` in the Gregorian
calendar.  Years of more than four digits carry a plus sign.
-/

set_option autoImplicit false

namespace CloudLifecycle

/-- A moment, in whole seconds since the start of 1970 in UTC. -/
structure Timestamp where
  unixSeconds : Int
deriving DecidableEq, Repr

namespace Timestamp

/-- A date of the Gregorian calendar. -/
structure Date where
  year : Int
  month : Nat
  day : Nat
deriving DecidableEq, Repr

/-- The date that is `days` days after 1 March of year 0 (so a leap day ends its year): the 400-year
cycle, the year in it and the day in that year give the date. -/
def dateOfMarchDays (days : Int) : Date :=
  let cycle := days.fdiv 146097
  let dayOfCycle := (days.fmod 146097).toNat
  let yearOfCycle :=
    (dayOfCycle - dayOfCycle / 1460 + dayOfCycle / 36524 - dayOfCycle / 146096) / 365
  let dayOfYear := dayOfCycle - (365 * yearOfCycle + yearOfCycle / 4 - yearOfCycle / 100)
  let marchMonth := (5 * dayOfYear + 2) / 153
  let day := dayOfYear - (153 * marchMonth + 2) / 5 + 1
  let month := if marchMonth < 10 then marchMonth + 3 else marchMonth - 9
  let year : Int := yearOfCycle + cycle * 400
  ⟨if month ≤ 2 then year + 1 else year, month, day⟩

/-- Days from 1 March of year 0 to 1 January 1970. -/
def epochMarchDays : Int := 719468

def date (t : Timestamp) : Date :=
  dateOfMarchDays (t.unixSeconds.fdiv 86400 + epochMarchDays)

/-- Seconds since midnight. -/
def secondOfDay (t : Timestamp) : Nat := (t.unixSeconds.fmod 86400).toNat

/-- A number with leading zeros up to a width. -/
def padded (width n : Nat) : String :=
  let digits := n.repr
  String.ofList (List.replicate (width - digits.length) '0') ++ digits

/-- Four digits at least, with a sign outside the years 0 to 9999. -/
def yearText (year : Int) : String :=
  if year < 0 then "-" ++ padded 4 year.natAbs
  else if 9999 < year then "+" ++ padded 4 year.natAbs
  else padded 4 year.natAbs

/-- The moment as `YYYY-MM-DDThh:mm:ssZ`. -/
def text (t : Timestamp) : String :=
  let d := t.date
  let s := t.secondOfDay
  yearText d.year ++ "-" ++ padded 2 d.month ++ "-" ++ padded 2 d.day ++ "T"
    ++ padded 2 (s / 3600) ++ ":" ++ padded 2 (s / 60 % 60) ++ ":" ++ padded 2 (s % 60) ++ "Z"

end Timestamp

end CloudLifecycle
