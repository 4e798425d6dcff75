import MelodyAutomation.Calendar
import MelodyAutomation.Document.Fault

/-!
# Written dates

A date is written by the digits of its year, month and day with hyphens between
them. A time of day may follow, after a letter `T` or after blanks: hours,
minutes and seconds with colons between them, a fraction of a second behind a
point, and a time zone, which is a letter `Z` for the zero meridian or a sign with
the hours and perhaps the minutes by which clocks are ahead.
-/

namespace MelodyAutomation
namespace Document

/-- A time of day as it is written: runs of digits, and the minutes by which the
clock is ahead of the zero meridian, if there is a time zone. -/
structure TimeText where
  hour : List Char
  minute : List Char
  second : List Char
  fraction : List Char
  offset : Option Int
  deriving DecidableEq, Repr

/-- A date as it is written: runs of digits, and perhaps a time of day. -/
structure DateText where
  year : List Char
  month : List Char
  day : List Char
  time : Option TimeText
  deriving DecidableEq, Repr

/-- A run of digits whose length lies within bounds, and what follows it. -/
def digitRun? (least most : Nat) (characters : List Char) :
    Option (List Char × List Char) :=
  let run := (characters.take most).takeWhile Char.isDigit
  if least ≤ run.length then some (run, characters.drop run.length) else none

/-- What follows a mark. -/
def after? (mark : Char) : List Char → Option (List Char)
  | character :: rest => if character = mark then some rest else none
  | [] => none

/-- The number that a run of digits stands for. -/
def digitsValue (digits : List Char) : Nat :=
  digits.foldl (fun number digit => number * 10 + (digit.toNat - '0'.toNat)) 0

namespace TimeText

/-- The minutes by which the clocks of a time zone are ahead, without the sign. -/
def hoursAhead? (characters : List Char) : Option Nat := do
  let (hour, rest) ← digitRun? 1 2 characters
  match rest with
  | [] => some (digitsValue hour * 60)
  | _ =>
      let behind ← after? ':' rest
      let (minute, final) ← digitRun? 2 2 behind
      if final = [] then some (digitsValue hour * 60 + digitsValue minute)
      else none

/-- The time zone at the end of a text, if there is one. -/
def offset? (characters : List Char) : Option (Option Int) :=
  match characters, characters.dropWhile fun c => c == ' ' || c == '\t' with
  | [], _ => some none
  | _, ['Z'] => some (some 0)
  | _, '+' :: rest =>
      (hoursAhead? rest).map fun minutes => some (minutes : Int)
  | _, '-' :: rest =>
      (hoursAhead? rest).map fun minutes => some (-(minutes : Int))
  | _, _ => none

/-- A fraction behind a point, and what follows it. -/
def splitFraction : List Char → List Char × List Char
  | '.' :: rest => (rest.takeWhile Char.isDigit, rest.dropWhile Char.isDigit)
  | rest => ([], rest)

/-- Read a time of day that a text consists of. -/
def read? (characters : List Char) : Option TimeText := do
  let (hour, afterHour) ← digitRun? 1 2 characters
  let (minute, afterMinute) ← digitRun? 2 2 (← after? ':' afterHour)
  let (second, afterSecond) ← digitRun? 2 2 (← after? ':' afterMinute)
  let (fraction, rest) := splitFraction afterSecond
  let offset ← offset? rest
  some { hour, minute, second, fraction, offset }

/-- The microseconds of a fraction of a second; digits beyond the sixth do not
count. -/
def microseconds (time : TimeText) : Nat :=
  let digits := time.fraction.take 6
  digitsValue (digits ++ List.replicate (6 - digits.length) '0')

end TimeText

namespace DateText

/-- What stands before the time of day: a letter, or blanks. -/
def timeAfter? : List Char → Option (List Char)
  | 'T' :: rest => some rest
  | 't' :: rest => some rest
  | ' ' :: rest => some (rest.dropWhile fun c => c == ' ' || c == '\t')
  | '\t' :: rest => some (rest.dropWhile fun c => c == ' ' || c == '\t')
  | _ => none

/-- Read a date that a text consists of. -/
def read? (characters : List Char) : Option DateText := do
  let (year, afterYear) ← digitRun? 4 4 characters
  let (month, afterMonth) ← digitRun? 1 2 (← after? '-' afterYear)
  let (day, rest) ← digitRun? 1 2 (← after? '-' afterMonth)
  match rest with
  | [] => some { year, month, day, time := none }
  | _ => do
      let time ← TimeText.read? (← timeAfter? rest)
      some { year, month, day, time := some time }

/-- Whether a text that does not say what it is would be taken for this date: a
date without a time of day needs both digits of month and day. -/
def isPlain (text : DateText) : Bool :=
  text.time.isSome || (text.month.length == 2 && text.day.length == 2)

/-- The date that is written. -/
def date (text : DateText) : Date :=
  ⟨digitsValue text.year, digitsValue text.month, digitsValue text.day⟩

/-- The moment of a date that is written with a time of day. -/
def moment (text : DateText) (time : TimeText) : Moment where
  date := text.date
  hour := digitsValue time.hour
  minute := digitsValue time.minute
  second := digitsValue time.second
  microsecond := time.microseconds
  offset := time.offset

end DateText
end Document
end MelodyAutomation
