import VideoGreeting.Number.Decimal

/-!
# Instants as text

An instant is the number of milliseconds since the beginning of 1970.
-/

namespace VideoGreeting.Timestamp

/-- A day of the calendar. -/
structure Date where
  year : Int
  month : Nat
  day : Nat
  deriving Repr, DecidableEq

/-- The date of a day counted from the first of January 1970. Years are taken to begin in March, so
that a leap day is the last of its year; 400 years have 146097 days. -/
def dateOf (days : Int) : Date :=
  let sinceMarch := days + 719468
  let era := sinceMarch / 146097
  let dayOfEra := (sinceMarch % 146097).toNat
  let yearOfEra := (dayOfEra - dayOfEra / 1460 + dayOfEra / 36524 - dayOfEra / 146096) / 365
  let dayOfYear := dayOfEra - (365 * yearOfEra + yearOfEra / 4 - yearOfEra / 100)
  let monthIndex := (5 * dayOfYear + 2) / 153
  let month := if monthIndex < 10 then monthIndex + 3 else monthIndex - 9
  { year := era * 400 + yearOfEra + (if month ≤ 2 then 1 else 0)
    month
    day := dayOfYear - (153 * monthIndex + 2) / 5 + 1 }

/-- The day of a date, counted from the first of January 1970. -/
def daysTo (date : Date) : Int :=
  let year := if date.month ≤ 2 then date.year - 1 else date.year
  let monthIndex : Int := if date.month ≤ 2 then date.month + 9 else date.month - 3
  let dayOfYear := (153 * monthIndex + 2) / 5 + date.day - 1
  let yearOfEra := year % 400
  year / 400 * 146097 + (yearOfEra * 365 + yearOfEra / 4 - yearOfEra / 100 + dayOfYear) - 719468

/-- The day of the week of a day, from 0 for Sunday; the first of January 1970 was a Thursday. -/
def weekday (days : Int) : Nat := ((days + 4) % 7).toNat

/-- A number of at least so many digits. -/
def digits (width n : Nat) : String := String.ofList (Number.padded width n)

/-- The date and the time of day of an instant, at the meridian of Greenwich. Milliseconds are
written unless there are none. -/
def text (now : Int) : String :=
  let date := dateOf (now / 86400000)
  let millis := (now % 86400000).toNat
  let time := [digits 2 (millis / 3600000), digits 2 (millis / 60000 % 60),
    digits 2 (millis / 1000 % 60)]
  let fraction := if millis % 1000 = 0 then "" else "." ++ digits 3 (millis % 1000)
  s!"{digits 4 date.year.toNat}-{digits 2 date.month}-{digits 2 date.day}T" ++
    ":".intercalate time ++ fraction ++ "+00:00"

end VideoGreeting.Timestamp
