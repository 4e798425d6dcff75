import MelodyAutomation.Numeral.Layout

/-!
# Dates and moments

A date is a day of the calendar with its leap years, from the first day of year 1
to the last one of year 9999. A moment is a date with a time of day, and perhaps
an offset from the time of the zero meridian. Two moments with offsets are the
same when they are at the same distance from the beginning of the calendar,
however they are written; a moment without an offset is never the same as one
with an offset.
-/

namespace MelodyAutomation

/-- A day of the calendar. -/
structure Date where
  year : Nat
  month : Nat
  day : Nat
  deriving DecidableEq, Repr

namespace Date

/-- Whether a year has a leap day. -/
def isLeapYear (year : Nat) : Bool :=
  year % 4 == 0 && (year % 100 != 0 || year % 400 == 0)

/-- The number of days of a month. -/
def daysOfMonth (year month : Nat) : Nat :=
  if month = 2 then if isLeapYear year then 29 else 28
  else if [4, 6, 9, 11].contains month then 30
  else 31

/-- The number of days of a year before a month. -/
def daysBeforeMonth (year month : Nat) : Nat :=
  (List.range (month - 1)).foldl
    (fun days earlier => days + daysOfMonth year (earlier + 1)) 0

/-- Whether a date is in the calendar. -/
def isValid (date : Date) : Bool :=
  1 ≤ date.year && date.year ≤ 9999 && 1 ≤ date.month && date.month ≤ 12 &&
    1 ≤ date.day && date.day ≤ daysOfMonth date.year date.month

/-- The number of days from the beginning of the calendar. -/
def dayNumber (date : Date) : Nat :=
  let before := date.year - 1
  365 * before + before / 4 - before / 100 + before / 400 +
    daysBeforeMonth date.year date.month + (date.day - 1)

@[simp] theorem dayNumber_first : dayNumber ⟨1, 1, 1⟩ = 0 := rfl

/-- The numbers of a date, in order. -/
def numbers (date : Date) : List Nat := [date.year, date.month, date.day]

/-- A date with leading zeros, largest unit first. -/
def text (date : Date) : List Char :=
  Numeral.paddedDigits 4 date.year ++ '-' ::
    (Numeral.paddedDigits 2 date.month ++ '-' ::
      Numeral.paddedDigits 2 date.day)

end Date

/-- A time of day on a date. -/
structure Moment where
  date : Date
  hour : Nat
  minute : Nat
  second : Nat
  microsecond : Nat
  /-- How far the clock is ahead of the zero meridian, in minutes. -/
  offset : Option Int
  deriving DecidableEq, Repr

namespace Moment

/-- The number of minutes of a day. -/
def minutesPerDay : Nat := 1440

/-- Whether a moment is in the calendar. An offset is less than a day. -/
def isValid (moment : Moment) : Bool :=
  moment.date.isValid && moment.hour < 24 && moment.minute < 60 &&
    moment.second < 60 && moment.microsecond < 1000000 &&
    moment.offset.all fun offset => offset.natAbs < minutesPerDay

/-- The number of microseconds from the beginning of the calendar, on the clock
of the moment. -/
def clockReading (moment : Moment) : Nat :=
  let minutes := (moment.date.dayNumber * 24 + moment.hour) * 60 + moment.minute
  (minutes * 60 + moment.second) * 1000000 + moment.microsecond

/-- The number of microseconds from the beginning of the calendar on the zero
meridian, when the offset is known. -/
def instant? (moment : Moment) : Option Int :=
  moment.offset.map fun offset =>
    (moment.clockReading : Int) - offset * 60000000

/-- Whether two moments are the same. -/
def same (left right : Moment) : Bool :=
  match left.instant?, right.instant? with
  | some first, some second => first == second
  | none, none => left.clockReading == right.clockReading
  | _, _ => false

@[simp] theorem same_self (moment : Moment) : moment.same moment = true := by
  unfold same
  cases moment.instant? <;> simp

/-- Hours and minutes with leading zeros. -/
def clockText (hours minutes : Nat) : List Char :=
  Numeral.paddedDigits 2 hours ++ ':' :: Numeral.paddedDigits 2 minutes

/-- An offset as hours and minutes with its sign. -/
def offsetText (offset : Int) : List Char :=
  (if offset < 0 then '-' else '+') ::
    clockText (offset.natAbs / 60) (offset.natAbs % 60)

/-- A moment with leading zeros, largest unit first; microseconds only when
there are any. -/
def text (moment : Moment) : List Char :=
  moment.date.text ++ ' ' :: clockText moment.hour moment.minute ++
    ':' :: Numeral.paddedDigits 2 moment.second ++
    (if moment.microsecond = 0 then []
      else '.' :: Numeral.paddedDigits 6 moment.microsecond) ++
    (moment.offset.map offsetText).getD []

/-- The numbers of a moment, in order; seconds and microseconds at the end are
left out when they are zero. -/
def numbers (moment : Moment) : List Nat :=
  moment.date.numbers ++ [moment.hour, moment.minute] ++
    (if moment.microsecond = 0 then
      if moment.second = 0 then [] else [moment.second]
    else [moment.second, moment.microsecond])

end Moment
end MelodyAutomation
