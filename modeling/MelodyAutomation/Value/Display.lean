import MelodyAutomation.Scalar
import MelodyAutomation.Text.Quoted
import MelodyAutomation.Value

/-!
# Showing values

The text of a value inside a message. `written` gives a value the way it would be
written down: texts in quotes, lists in brackets, sets and maps in braces, records
by the name of their kind and their fields. Where a collection occurs inside
itself, dots stand for it. `display` is the same except that a text on its own is
shown bare, and a date or a moment by its digits.
-/

namespace MelodyAutomation
namespace Value

variable {R : Type} [Scalar R]

/-- Words separated by commas. -/
def commaSeparated (words : List String) : String := ", ".intercalate words

/-- Words in parentheses; a single one is followed by a comma. -/
def parenthesized : List String → String
  | [only] => "(" ++ only ++ ",)"
  | words => "(" ++ commaSeparated words ++ ")"

/-- A call of a name with some numbers and perhaps further words. -/
def callText (name : String) (numbers : List Nat) (words : List String) :
    String :=
  name ++ "(" ++ commaSeparated (numbers.map toString ++ words) ++ ")"

/-- The written form of a time zone, given by its offset in minutes. -/
def writtenZone (offset : Int) : String :=
  if offset = 0 then "datetime.timezone.utc"
  else
    let seconds := (offset * 60).toNat
    let ahead := ((offset + Moment.minutesPerDay) * 60).toNat
    let words :=
      if offset < 0 then ["days=-1", "seconds=" ++ toString ahead]
      else ["seconds=" ++ toString seconds]
    "datetime.timezone(" ++ callText "datetime.timedelta" [] words ++ ")"

/-- The written form of a moment. -/
def writtenMoment (moment : Moment) : String :=
  callText "datetime.datetime" moment.numbers
    (moment.offset.map fun offset => "tzinfo=" ++ writtenZone offset).toList

/-- What stands for a collection inside itself. -/
def writtenAgain : Value R → String
  | map _ => "\x7b...\x7d"
  | tuple _ => "(...)"
  | _ => "[...]"

mutual

/-- The written form of a value inside the circular collections of some labels. -/
def writtenInside (around : List Nat) : Value R → String
  | null => "None"
  | bool truth => if truth then "True" else "False"
  | int number => toString number
  | real scalar => Scalar.text scalar
  | text content => Text.quoted content
  | bytes octets => Text.quotedOctets octets
  | date day => callText "datetime.date" day.numbers []
  | moment reached => writtenMoment reached
  | list items => "[" ++ commaSeparated (writtenItems around items) ++ "]"
  | tuple items => parenthesized (writtenItems around items)
  | set [] => "set()"
  | set members =>
      "\x7b" ++ commaSeparated (writtenItems around members) ++ "\x7d"
  | map entries =>
      "\x7b" ++ commaSeparated (writtenEntries around entries) ++ "\x7d"
  | record kind fields =>
      let words := (kind.fieldNames.zip (writtenItems around fields)).map
        fun (name, word) => name ++ "=" ++ word
      kind.name ++ "(" ++ commaSeparated words ++ ")"
  | circular label collection =>
      if around.contains label then writtenAgain (collection ())
      else writtenInside (label :: around) (collection ())

/-- The written forms of the items of a list. -/
def writtenItems (around : List Nat) : List (Value R) → List String
  | [] => []
  | item :: rest => writtenInside around item :: writtenItems around rest

/-- The written forms of the entries of a map. -/
def writtenEntries (around : List Nat) : Entries R → List String
  | [] => []
  | (key, value) :: rest =>
      (writtenInside around key ++ ": " ++ writtenInside around value) ::
        writtenEntries around rest

end

/-- The written form of a value. -/
def written (value : Value R) : String := writtenInside [] value

/-- The text of a value: a text stands for itself, a date and a moment are given
by their digits, and anything else is written. -/
def display : Value R → String
  | text content => content
  | date day => String.ofList day.text
  | moment reached => String.ofList reached.text
  | other => other.written

@[simp] theorem display_text (content : String) :
    (text content : Value R).display = content := rfl

end Value
end MelodyAutomation
