import ArkLifecycle.Fault
import ArkLifecycle.Json.Parser

/-! Days and moments as YAML writes them.

A day is a year of four digits, a month and a day, with dashes between them. A moment goes on with
the letter T or with blanks, the time of day, and perhaps how far the clock is ahead of the
universal time; the letter Z says that it is not ahead at all.
-/

namespace ArkLifecycle.Yaml

/-- (digitsUpTo most cs) takes digits off `cs`, at most `most` of them. -/
def digitsUpTo : Nat → List Char → List Char × List Char
  | 0, cs => ([], cs)
  | _ + 1, [] => ([], [])
  | most + 1, c :: rest =>
      if c.isDigit then
        let (digits, rest) := digitsUpTo most rest
        (c :: digits, rest)
      else
        ([], c :: rest)

/-- (number? least most cs) takes a number of `least` to `most` digits off `cs`. -/
def number? (least most : Nat) (cs : List Char) : Option (List Char × List Char) :=
  let (digits, rest) := digitsUpTo most cs
  if least ≤ digits.length then some (digits, rest) else none

/-- (after? c cs) is what follows the character `c` at the beginning of `cs`. -/
def after? (c : Char) : List Char → Option (List Char)
  | d :: rest => if c == d then some rest else none
  | [] => none

/-- (blankless cs) drops the spaces and tabs at the beginning. -/
def blankless (cs : List Char) : List Char :=
  cs.dropWhile fun c => c == ' ' || c == '\t'

/-- (withoutFinalBreak cs) drops one line end after all other characters. -/
def withoutFinalBreak (cs : List Char) : List Char :=
  if cs.getLast? == some '\n' then cs.dropLast else cs

/-- A written time of day, each part by its digits. How far the clock is ahead is a number of
seconds.
-/
structure ClockText where
  hour : List Char
  minute : List Char
  second : List Char
  fraction : List Char
  ahead : Option Int
deriving DecidableEq, Repr, Inhabited

/-- A written day or moment, each part by its digits. -/
structure StampText where
  year : List Char
  month : List Char
  day : List Char
  clock : Option ClockText
deriving DecidableEq, Repr, Inhabited

/-- (aheadText? cs) reads how far a clock is ahead, up to the end; nothing at all is not known. -/
def aheadText? (cs : List Char) : Option (Option Int) :=
  match cs, blankless cs with
  | [], _ => some none
  | _, ['Z'] => some (some 0)
  | _, sign :: rest => do
      let (hours, rest) ← if sign == '+' || sign == '-' then number? 1 2 rest else none
      let (minutes, rest) ←
        match rest with
        | ':' :: rest => number? 2 2 rest
        | rest => some ([], rest)
      if !rest.isEmpty then
        none
      let seconds : Int := (Json.digitsValue hours * 60 + Json.digitsValue minutes) * 60
      return some (if sign == '-' then -seconds else seconds)
  | _, [] => none

/-- (clockText? cs) reads a time of day up to the end. -/
def clockText? (cs : List Char) : Option ClockText := do
  let (hour, rest) ← number? 1 2 cs
  let (minute, rest) ← number? 2 2 (← after? ':' rest)
  let (second, rest) ← number? 2 2 (← after? ':' rest)
  let (fraction, rest) :=
    match rest with
    | '.' :: rest => rest.span Char.isDigit
    | rest => ([], rest)
  return { hour, minute, second, fraction, ahead := ← aheadText? rest }

/-- (stampText? cs) reads a day or a moment. A line end may follow it. -/
def stampText? (cs : List Char) : Option StampText := do
  let (year, rest) ← number? 4 4 (withoutFinalBreak cs)
  let (month, rest) ← number? 1 2 (← after? '-' rest)
  let (day, rest) ← number? 1 2 (← after? '-' rest)
  match rest with
  | [] => return { year, month, day, clock := none }
  | c :: more =>
      let clock ←
        if c == 'T' || c == 't' then
          clockText? more
        else if c == ' ' || c == '\t' then
          clockText? (blankless more)
        else
          none
      return { year, month, day, clock := some clock }

/-- (StampText.isPlain stamp) holds of what is a day or moment without saying so: a day that stands
alone has all of its digits.
-/
def StampText.isPlain (stamp : StampText) : Bool :=
  stamp.clock.isSome || (stamp.month.length == 2 && stamp.day.length == 2)

/-- (micros digits) is the number of microseconds that a fraction of a second has. -/
def micros (digits : List Char) : Nat :=
  Json.digitsValue ((digits ++ List.replicate 6 '0').take 6)

/-- (StampText.value stamp) is the day or moment that is written. A clock that is too far ahead is
noticed first.
-/
def StampText.value (stamp : StampText) : Except CalendarFault Scalar := do
  let number := Json.digitsValue
  let day := Date.of (number stamp.year) (number stamp.month) (number stamp.day)
  match stamp.clock with
  | none => return .date (← day)
  | some clock =>
      let ahead ← clock.ahead.mapM Moment.checkAhead
      return .moment (← Moment.of (← day) (number clock.hour) (number clock.minute)
        (number clock.second) (micros clock.fraction) ahead)

end ArkLifecycle.Yaml
