import ArkLifecycle.Text.Basic

/-! Days and moments.

A day is a date of the Gregorian calendar from the year one on. A moment is a day with a time of
day to the microsecond, and may say how far its clock is ahead of the universal time.
-/

namespace ArkLifecycle

/-- A day of the calendar. -/
structure Date where
  year : Nat
  month : Nat
  day : Nat
deriving DecidableEq, Repr, Inhabited

/-- A moment: a day, a time of day, and by how many seconds its clock is ahead of the universal
time, when that is known.
-/
structure Moment where
  date : Date
  hour : Nat
  minute : Nat
  second : Nat
  micro : Nat
  ahead : Option Int
deriving DecidableEq, Repr, Inhabited

/-- Why numbers are no day or moment. -/
inductive CalendarFault where
  | year (given : Nat)
  | month
  | day
  | hour
  | minute
  | second
  /-- A clock is a day or more away from the universal time. -/
  | ahead (seconds : Int)
deriving DecidableEq, Repr, Inhabited

namespace Date

/-- (isLeap year) holds of the years with a day more than others. -/
def isLeap (year : Nat) : Bool :=
  year % 4 == 0 && (year % 100 != 0 || year % 400 == 0)

/-- (monthLength year month) is the number of days of a month. -/
def monthLength (year month : Nat) : Nat :=
  if month == 2 then
    if isLeap year then 29 else 28
  else if [4, 6, 9, 11].contains month then
    30
  else
    31

/-- (of year month day) is the day with the given numbers. The year is looked at first, then the
month, then the day.
-/
def of (year month day : Nat) : Except CalendarFault Date :=
  if year = 0 then
    .error (.year year)
  else if month = 0 ∨ 12 < month then
    .error .month
  else if day = 0 ∨ monthLength year month < day then
    .error .day
  else
    .ok ⟨year, month, day⟩

/-- (daysBefore date) is the number of days before a day, from the first of the year one on. -/
def daysBefore (date : Date) : Nat :=
  let years := date.year - 1
  let months := (List.range (date.month - 1)).map fun index => monthLength date.year (index + 1)
  365 * years + years / 4 - years / 100 + years / 400 + months.foldr (· + ·) 0
    + (date.day - 1)

end Date

namespace Moment

/-- (of date hour minute second micro ahead) is the moment with the given numbers. -/
def of (date : Date) (hour minute second micro : Nat) (ahead : Option Int)
    : Except CalendarFault Moment :=
  if 23 < hour then
    .error .hour
  else if 59 < minute then
    .error .minute
  else if 59 < second then
    .error .second
  else
    .ok ⟨date, hour, minute, second, micro, ahead⟩

/-- (dayLength) is the number of seconds in a day. -/
def dayLength : Nat := 86400

/-- (checkAhead seconds) lets a clock be less than a day away from the universal time. -/
def checkAhead (seconds : Int) : Except CalendarFault Int :=
  if seconds.natAbs < dayLength then .ok seconds else .error (.ahead seconds)

/-- (micros moment) counts the microseconds that the clock of a moment has gone through. -/
def micros (moment : Moment) : Nat :=
  let seconds := moment.date.daysBefore * dayLength + moment.hour * 3600 + moment.minute * 60
    + moment.second
  seconds * 1000000 + moment.micro

/-- (same m n) holds of two moments that are the same point in time. A moment whose clock is not
known is never the same as one whose clock is.
-/
def same (m n : Moment) : Bool :=
  match m.ahead, n.ahead with
  | none, none => m.micros == n.micros
  | some a, some b => (m.micros : Int) - a * 1000000 == (n.micros : Int) - b * 1000000
  | _, _ => false

end Moment

-----------------------------------------------------------------------------------------
-- Days and moments as texts

/-- (Text.padded width n) writes a number with at least `width` digits. -/
def Text.padded (width n : Nat) : Text :=
  let digits := Nat.toDigits 10 n
  .ofChars (List.replicate (width - digits.length) '0' ++ digits)

/-- (Date.display date) writes a day by its year, month and day. -/
def Date.display (date : Date) : Text :=
  Text.padded 4 date.year ++ "-" ++ Text.padded 2 date.month ++ "-" ++ Text.padded 2 date.day

/-- (Date.numbers date) lists the numbers of a day. -/
def Date.numbers (date : Date) : List Nat :=
  [date.year, date.month, date.day]

/-- (Text.listed numbers) writes numbers one after the other, divided by commas. -/
def Text.listed : List Nat → Text
  | [] => ""
  | [n] => .ofNat n
  | n :: rest => .ofNat n ++ ", " ++ listed rest

/-- (Date.quoted date) shows a day inside of a document. -/
def Date.quoted (date : Date) : Text :=
  "datetime.date(" ++ Text.listed date.numbers ++ ")"

/-- (Moment.spanText seconds) shows a span of time by its days and the seconds of the last one. -/
def Moment.spanText (seconds : Int) : Text :=
  let days := seconds.fdiv Moment.dayLength
  let rest := (seconds.fmod Moment.dayLength).toNat
  let daysPart : List Text :=
    if days = 0 then [] else ["days=" ++ Text.ofString (toString days)]
  let restPart : List Text := if rest = 0 then [] else ["seconds=" ++ Text.ofNat rest]
  let parts :=
    match daysPart ++ restPart with
    | [] => "0"
    | [part] => part
    | first :: second :: _ => first ++ ", " ++ second
  "datetime.timedelta(" ++ parts ++ ")"

namespace Moment

/-- (aheadDisplay ahead) writes how far a clock is ahead, in hours and minutes. -/
def aheadDisplay : Option Int → Text
  | none => ""
  | some seconds =>
      let minutes := seconds.natAbs / 60
      let sign : Text := if seconds < 0 then "-" else "+"
      sign ++ Text.padded 2 (minutes / 60) ++ ":" ++ Text.padded 2 (minutes % 60)

/-- (display moment) writes a moment; full seconds have no fraction. -/
def display (moment : Moment) : Text :=
  let fraction : Text := if moment.micro = 0 then "" else "." ++ Text.padded 6 moment.micro
  moment.date.display ++ " " ++ Text.padded 2 moment.hour ++ ":" ++ Text.padded 2 moment.minute
    ++ ":" ++ Text.padded 2 moment.second ++ fraction ++ aheadDisplay moment.ahead

/-- (aheadQuoted ahead) shows how far a clock is ahead inside of a document. -/
def aheadQuoted : Option Int → Text
  | none => ""
  | some 0 => ", tzinfo=datetime.timezone.utc"
  | some seconds => ", tzinfo=datetime.timezone(" ++ spanText seconds ++ ")"

/-- (clockNumbers moment) lists the numbers of a time of day, without zeros at the end that may be
left out.
-/
def clockNumbers (moment : Moment) : List Nat :=
  if moment.micro ≠ 0 then
    [moment.hour, moment.minute, moment.second, moment.micro]
  else if moment.second ≠ 0 then
    [moment.hour, moment.minute, moment.second]
  else
    [moment.hour, moment.minute]

/-- (quoted moment) shows a moment inside of a document. -/
def quoted (moment : Moment) : Text :=
  "datetime.datetime(" ++ Text.listed (moment.date.numbers ++ moment.clockNumbers)
    ++ aheadQuoted moment.ahead ++ ")"

end Moment

/-- (CalendarFault.message fault) is the wording of a fault. -/
def CalendarFault.message : CalendarFault → Text
  | .year given => "year " ++ Text.ofNat given ++ " is out of range"
  | .month => "month must be in 1..12"
  | .day => "day is out of range for month"
  | .hour => "hour must be in 0..23"
  | .minute => "minute must be in 0..59"
  | .second => "second must be in 0..59"
  | .ahead seconds =>
      "offset must be a timedelta strictly between -timedelta(hours=24) and timedelta(hours=24),"
        ++ " not " ++ Moment.spanText seconds ++ "."

end ArkLifecycle
