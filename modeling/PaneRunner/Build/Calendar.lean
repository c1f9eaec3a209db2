import PaneRunner.Text.Decimal

/-
  Points in time as dates of the proleptic Gregorian calendar. Years are counted from March here,
  so that the day a leap year has more is the last of its year.
-/
namespace PaneRunner.Build

structure Date where
  year : Nat
  month : Nat
  day : Nat
  deriving DecidableEq, Repr

/-- The days of 400 years. -/
def eraDays : Nat := 146097

/-- The year of an era, counted from March, that the `doe`-th day of the era is in. -/
def yearOfEra (doe : Nat) : Nat := (doe - doe / 1460 + doe / 36524 - doe / 146096) / 365

/-- The day within its year, counted from the first of March. -/
def dayOfYear (doe : Nat) : Nat :=
  let yoe := yearOfEra doe
  doe - (365 * yoe + yoe / 4 - yoe / 100)

/-- The month of a day of a year, March being number 0. -/
def monthIndex (doy : Nat) : Nat := (5 * doy + 2) / 153

/-- The date `days` days after the first of January 1970. -/
def Date.ofDays (days : Nat) : Date :=
  let z := days + 719468
  let doe := z % eraDays
  let doy := dayOfYear doe
  let mp := monthIndex doy
  let month := if mp < 10 then mp + 3 else mp - 9
  let year := yearOfEra doe + z / eraDays * 400 + if month ≤ 2 then 1 else 0
  { year, month, day := doy - (153 * mp + 2) / 5 + 1 }

/-- A point in time as text, given in seconds since the start of 1970. -/
def timestamp (secs : Nat) : String :=
  let d := Date.ofDays (secs / 86400)
  let rem := secs % 86400
  let two := Text.Decimal.padded 2
  Text.Decimal.padded 4 d.year ++ "-" ++ two d.month ++ "-" ++ two d.day ++ "T" ++
    two (rem / 3600) ++ ":" ++ two (rem % 3600 / 60) ++ ":" ++ two (rem % 60) ++ "Z"

end PaneRunner.Build
