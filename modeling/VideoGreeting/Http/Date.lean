import VideoGreeting.Number.Numeral
import VideoGreeting.Text.Blank
import VideoGreeting.Timestamp

/-!
# Dates in headers

A moment is the number of seconds since the beginning of 1970. A date is written in one of three
forms, always at the meridian of Greenwich:

    Sun, 06 Nov 1994 08:49:37 GMT
    Sunday, 06-Nov-94 08:49:37 GMT
    Sun Nov  6 08:49:37 1994
-/

namespace VideoGreeting.Http.Date

/-- The months, in the order of the year. -/
def months : List String :=
  ["Jan", "Feb", "Mar", "Apr", "May", "Jun", "Jul", "Aug", "Sep", "Oct", "Nov", "Dec"]

/-- The days of the week, from Sunday. -/
def weekdays : List String :=
  ["Sunday", "Monday", "Tuesday", "Wednesday", "Thursday", "Friday", "Saturday"]

/-! ## Forms

A form is a text in which small letters stand for what a date puts there: `w` for the day of the
week, `d` for the day, `b` for a day that may begin with a blank, `m` for the month, `y` for the
year, `h`, `n` and `s` for the time, and `x` for any character. Everything else stands for
itself. -/

/-- The form of the first date above. -/
def fullForm : List Char := "www, dd mmm yyyy hh:nn:ss GMT".toList

/-- The form of the second date above, behind the day of the week. -/
def shortYearForm : List Char := "dd-mmm-yyxhh:nn:ss GMT".toList

/-- The form of the third date above. -/
def yearLastForm : List Char := "www mmm bb hh:nn:ss yyyy".toList

/-- Whether a text has a form. -/
def hasForm (form text : List Char) : Bool :=
  form.length == text.length && (form.zip text).all fun (f, c) => f.isLower || f == c

/-- What a text has in the place of a letter of its form. -/
def field (form text : List Char) (letter : Char) : List Char :=
  ((form.zip text).filter (·.1 == letter)).map (·.2)

/-! ## Reading -/

/-- The number of a day of the calendar from 1970 to 9999, where it is that day of the week. -/
def dayOf? (weekday year month day : Nat) : Option Int :=
  let date : Timestamp.Date := { year, month, day }
  let days := Timestamp.daysTo date
  if 1970 ≤ year ∧ year ≤ 9999 ∧ Timestamp.dateOf days = date ∧ Timestamp.weekday days = weekday
  then some days
  else none

/-- The year that digits write. Two digits stand for one of the hundred years from 1970. -/
def year? (digits : List Char) : Option Nat := do
  let year ← Number.digits? digits
  if digits.length ≠ 2 then return year
  return if year < 70 then year + 2000 else year + 1900

/-- The moment that a text names in a form, on that day of the week. -/
def moment? (form text : List Char) (weekday : Nat) : Option Int := do
  let year ← year? (field form text 'y')
  let month ← months.idxOf? (String.ofList (field form text 'm'))
  let day ← Number.digits? (field form text 'd' ++ (field form text 'b').dropWhile (· == ' '))
  let days ← dayOf? weekday year (month + 1) day
  let hour ← Number.digits? (field form text 'h')
  let minute ← Number.digits? (field form text 'n')
  let second ← Number.digits? (field form text 's')
  if hour < 24 ∧ minute < 60 ∧ second < 60 then
    return days * 86400 + hour * 3600 + minute * 60 + second
  none

/-- The moment of a date in a form that has the first three letters of the weekday. -/
def ofForm? (form text : List Char) : Option Int :=
  if hasForm form text then
    ((weekdays.map (·.toList.take 3)).idxOf? (field form text 'w')).bind (moment? form text)
  else none

/-- The moment of a date that begins with the whole weekday. -/
def ofShortYear? (text : List Char) : Option Int := do
  let (name, rest) ← Text.splitOnce ',' text
  let weekday ← weekdays.idxOf? (String.ofList name)
  match rest with
  | ' ' :: rest => if hasForm shortYearForm rest then moment? shortYearForm rest weekday else none
  | _ => none

/-- The moment that a header names, which it does in ASCII. -/
def read? (value : String) : Option Int :=
  let text := Text.stripBy Text.isBlank value.toList
  if value.toList.all (·.toNat < 0x80) then
    (ofForm? fullForm text).orElse fun _ =>
      (ofShortYear? text).orElse fun _ => ofForm? yearLastForm text
  else none

end VideoGreeting.Http.Date
