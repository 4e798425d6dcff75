import MelodyAutomation.Value.Arithmetic
import Mathlib.Data.List.TakeWhile

/-!
# Numerals of digits and points

A text of nothing but digits and points has no white space, sign, underscore, exponent or
word for the reader of numerals to find. It is a numeral exactly when there is a digit in
it and at most one point, and then the number is that of its digits, with as many places
as there are digits behind the point.
-/

namespace MelodyAutomation
namespace Text

/-- A digit stands in one of the runs of ten digits. -/
theorem exists_run_of_isDigit
    {character : Char}
    (digit : isDigit character = true) :
    ∃ start ∈ digitZeros, ∃ offset < 10, character.toNat = start + offset := by
  obtain ⟨value, found⟩ := Option.isSome_iff_exists.1 digit
  unfold digitValue? at found
  simp only at found
  split at found
  · split_ifs at found with ascii
    exact ⟨0x30, by decide, character.toNat - 0x30, by omega, by omega⟩
  · obtain ⟨start, located, -⟩ := Option.map_eq_some_iff.1 found
    have inRun := List.find?_some located
    simp only [Bool.and_eq_true, decide_eq_true_eq] at inRun
    exact ⟨start, List.mem_of_find?_eq_some located, character.toNat - start,
      by omega, by omega⟩

/-- Digits are no white space. -/
theorem isSpace_of_isDigit
    {character : Char}
    (digit : isDigit character = true) :
    isSpace character = false := by
  have runs : ∀ start ∈ digitZeros, ∀ offset < 10,
      isSpace (Char.ofNat (start + offset)) = false := by
    decide +kernel
  obtain ⟨start, run, offset, below, point⟩ := exists_run_of_isDigit digit
  rw [← Char.ofNat_toNat character, point]
  exact runs start run offset below

/-- An ASCII digit is a digit. -/
theorem isDigit_of_ascii
    {character : Char}
    (digit : character.isDigit = true) :
    isDigit character = true := by
  simp only [Char.isDigit, Bool.and_eq_true, decide_eq_true_eq] at digit
  have least : 0x30 ≤ character.toNat := digit.1
  have greatest : character.toNat ≤ 0x39 := digit.2
  have ascii : character.toNat < 0x80 := by omega
  simp [isDigit, digitValue?, ascii, least, greatest]

section

variable {kind : Char → Bool}

/-- A run of one kind that ends in front of another character is what is taken of that
kind. -/
theorem takeWhile_run
    {run : List Char}
    (within : ∀ character ∈ run, kind character = true)
    {next : Char}
    (other : kind next = false)
    (rest : List Char) :
    (run ++ next :: rest).takeWhile kind = run := by
  rw [List.takeWhile_append_of_pos within, List.takeWhile_cons_of_neg (by simp [other]),
    List.append_nil]

theorem dropWhile_run
    {run : List Char}
    (within : ∀ character ∈ run, kind character = true)
    {next : Char}
    (other : kind next = false)
    (rest : List Char) :
    (run ++ next :: rest).dropWhile kind = next :: rest := by
  rw [List.dropWhile_append_of_pos within, List.dropWhile_cons_of_neg (by simp [other])]

theorem trim_eq_self
    {characters : List Char}
    (other : ∀ character ∈ characters, kind character = false) :
    trim kind characters = characters := by
  have front : characters.dropWhile kind = characters := by
    cases characters with
    | nil => rfl
    | cons first rest => simp [other first]
  have back : characters.reverse.dropWhile kind = characters.reverse := by
    cases reversed : characters.reverse with
    | nil => rfl
    | cons last rest =>
        have member : last ∈ characters := by
          rw [← List.mem_reverse, reversed]
          exact List.mem_cons_self
        simp [other last member]
  rw [trim, front, back, List.reverse_reverse]

end

end Text

namespace Numeral

/-- A digit of any script as the ASCII digit of its value, and any other character as
itself. -/
def asciiDigit (character : Char) : Char :=
  match Text.digitValue? character with
  | some value => Nat.digitChar value
  | none => character

theorem asciiDigits_eq_map (characters : List Char) :
    asciiDigits characters = characters.map asciiDigit := rfl

theorem asciiDigit_of_not_digit
    {character : Char}
    (other : Text.isDigit character = false) :
    asciiDigit character = character := by
  rw [Text.isDigit, Option.isSome_eq_false_iff, Option.isNone_iff_eq_none] at other
  rw [asciiDigit, other]

/-- Among the characters written by ASCII digits, the digits are those that were
digits. -/
theorem isDigit_asciiDigit (character : Char) :
    (asciiDigit character).isDigit = Text.isDigit character := by
  have digits : ∀ value < 10, (Nat.digitChar value).isDigit = true := by decide
  cases found : Text.digitValue? character with
  | some value =>
      have digit : Text.isDigit character = true := by simp [Text.isDigit, found]
      rw [digit, asciiDigit, found]
      exact digits value (Text.digitValue?_lt_ten found)
  | none =>
      have other : Text.isDigit character = false := by simp [Text.isDigit, found]
      rw [asciiDigit_of_not_digit other, other, Bool.eq_false_iff]
      intro ascii
      rw [Text.isDigit_of_ascii ascii] at other
      cases other

/-- A text holds nothing but digits and points. -/
def IsPointed (characters : List Char) : Prop :=
  ∀ character ∈ characters, character = '.' ∨ Text.isDigit character = true

/-- The point and the ASCII digits. -/
def decimalCharacters : List Char :=
  ['.', '0', '1', '2', '3', '4', '5', '6', '7', '8', '9']

/-- What is left of digits and points when the digits are written by ASCII digits. -/
theorem mem_of_mem_asciiDigits
    {characters : List Char}
    (pointed : IsPointed characters)
    {character : Char}
    (member : character ∈ asciiDigits characters) :
    character ∈ decimalCharacters := by
  have digits : ∀ value < 10, Nat.digitChar value ∈ decimalCharacters := by decide
  rw [asciiDigits_eq_map] at member
  obtain ⟨source, inside, rfl⟩ := List.mem_map.1 member
  rcases pointed source inside with rfl | digit
  · decide
  · obtain ⟨value, found⟩ := Option.isSome_iff_exists.1 digit
    rw [asciiDigit, found]
    exact digits value (Text.digitValue?_lt_ten found)

/-! ## What the reader does not find -/

theorem dropUnderscores_eq_self
    {characters : List Char}
    (plain : '_' ∉ characters)
    (afterDigit : Bool) :
    dropUnderscores? afterDigit characters = some characters := by
  induction characters generalizing afterDigit with
  | nil => rfl
  | cons first rest hypothesis =>
      obtain ⟨other, plain⟩ := not_or.1 (List.mem_cons.not.1 plain)
      rw [dropUnderscores?.eq_4 _ _ _ (Ne.symm other), hypothesis plain]
      rfl

theorem splitSign_eq_self
    {characters : List Char}
    (noMinus : '-' ∉ characters)
    (noPlus : '+' ∉ characters) :
    splitSign characters = (false, characters) := by
  unfold splitSign
  split
  · simp at noMinus
  · simp at noPlus
  · rfl

/-- A text without the letter `n` is none of the words for numbers. -/
theorem unsignedReal_of_no_word
    {characters : List Char}
    (wordless : 'n' ∉ characters.map Char.toLower)
    (negative : Bool) :
    unsignedReal? negative characters =
      (unsignedDecimal? characters).map fun (coefficient, exponent) =>
        .decimal negative coefficient exponent := by
  have other : ∀ word : List Char, 'n' ∈ word → characters.map Char.toLower ≠ word :=
    fun word inside same => wordless (same ▸ inside)
  rw [unsignedReal?, if_neg (not_or.2 ⟨other _ (by decide), other _ (by decide)⟩),
    if_neg (other _ (by decide))]

/-- Digits and points are read as a decimal, if as anything. -/
theorem readReal_of_isPointed
    {characters : List Char}
    (pointed : IsPointed characters) :
    readReal? (String.ofList characters) =
      (unsignedDecimal? (asciiDigits characters)).map fun (coefficient, exponent) =>
        .decimal false coefficient exponent := by
  have noSpace : ∀ character ∈ characters, Text.isNumeralSpace character = false := by
    intro character member
    rcases pointed character member with rfl | digit
    · decide
    · rw [Text.isNumeralSpace, Text.isSpace_of_isDigit digit, Bool.false_and]
  have absent : ∀ character ∉ decimalCharacters,
      character ∉ asciiDigits characters :=
    fun character outside member => outside (mem_of_mem_asciiDigits pointed member)
  have wordless : 'n' ∉ (asciiDigits characters).map Char.toLower := by
    have lower : decimalCharacters.all (fun character => character.toLower != 'n') := by
      decide
    intro member
    obtain ⟨character, inside, same⟩ := List.mem_map.1 member
    have among := mem_of_mem_asciiDigits pointed inside
    exact bne_iff_ne.1 (List.all_eq_true.1 lower character among) same
  rw [readReal?, String.toList_ofList, Text.trim_eq_self noSpace,
    dropUnderscores_eq_self (absent '_' (by decide))]
  simp only [splitSign_eq_self (absent '-' (by decide)) (absent '+' (by decide)),
    unsignedReal_of_no_word wordless]

/-! ## What the reader makes of digits and points -/

/-- A text is a run of digits with a point in front of the fraction, or one without a
point and with no fraction. -/
structure IsDecimal (characters whole fraction : List Char) : Prop where
  written : characters = whole ++ '.' :: fraction ∨ fraction = [] ∧ characters = whole
  digits : ∀ character ∈ whole ++ fraction, Text.isDigit character = true
  nonempty : whole ++ fraction ≠ []

/-- The ASCII digits at the start of a text are the digits at the start. -/
theorem takeWhile_asciiDigits (characters : List Char) :
    (asciiDigits characters).takeWhile Char.isDigit =
      asciiDigits (characters.takeWhile Text.isDigit) := by
  rw [asciiDigits_eq_map, List.takeWhile_map, asciiDigits_eq_map]
  congr 2
  exact funext isDigit_asciiDigit

theorem dropWhile_asciiDigits (characters : List Char) :
    (asciiDigits characters).dropWhile Char.isDigit =
      asciiDigits (characters.dropWhile Text.isDigit) := by
  rw [asciiDigits_eq_map, List.dropWhile_map, asciiDigits_eq_map]
  congr 2
  exact funext isDigit_asciiDigit

/-- A text of digits and points is a run of digits, or has one in front of its first
point. -/
theorem IsPointed.exists_run
    {characters : List Char}
    (pointed : IsPointed characters) :
    ∃ run, (∀ character ∈ run, Text.isDigit character = true) ∧
      (characters = run ∨
        ∃ rest, IsPointed rest ∧ characters = run ++ '.' :: rest) := by
  refine ⟨characters.takeWhile Text.isDigit, fun _ => List.mem_takeWhile_imp, ?_⟩
  have whole := (List.takeWhile_append_dropWhile (p := Text.isDigit)
    (l := characters)).symm
  cases behind : characters.dropWhile Text.isDigit with
  | nil =>
      rw [behind, List.append_nil] at whole
      exact .inl whole
  | cons next rest =>
      rw [behind] at whole
      have within : ∀ character ∈ next :: rest, character ∈ characters := by
        rw [← behind]
        exact (List.dropWhile_suffix _).subset
      have stops : Text.isDigit next = false := by
        have head := List.head?_dropWhile_not Text.isDigit characters
        rw [behind] at head
        simpa using head
      rcases pointed next (within next List.mem_cons_self) with rfl | digit
      · exact .inr ⟨rest, fun character member =>
          pointed character (within character (List.mem_cons_of_mem _ member)), whole⟩
      · rw [digit] at stops
        cases stops

theorem splitPoint_digits
    {digits : List Char}
    (all : ∀ character ∈ digits, Text.isDigit character = true) :
    splitPoint (asciiDigits digits) = (asciiDigits digits, [], []) := by
  have taken : digits.takeWhile Text.isDigit = digits := by
    rwa [List.takeWhile_eq_self_iff]
  have dropped : digits.dropWhile Text.isDigit = [] := by
    rwa [List.dropWhile_eq_nil_iff]
  rw [splitPoint, dropWhile_asciiDigits, takeWhile_asciiDigits, taken, dropped]
  rfl

theorem splitPoint_pointed
    {digits : List Char}
    (all : ∀ character ∈ digits, Text.isDigit character = true)
    (rest : List Char) :
    splitPoint (asciiDigits (digits ++ '.' :: rest)) =
      (asciiDigits digits, asciiDigits (rest.takeWhile Text.isDigit),
        asciiDigits (rest.dropWhile Text.isDigit)) := by
  have noDigit : Text.isDigit '.' = false := by decide
  have point : asciiDigits ('.' :: rest) = '.' :: asciiDigits rest := rfl
  rw [splitPoint, dropWhile_asciiDigits, takeWhile_asciiDigits,
    Text.takeWhile_run all noDigit, Text.dropWhile_run all noDigit, point]
  simp only [takeWhile_asciiDigits, dropWhile_asciiDigits]

/-- The digits on both sides of the point of a decimal. -/
theorem IsDecimal.splitPoint
    {characters whole fraction : List Char}
    (decimal : IsDecimal characters whole fraction) :
    splitPoint (asciiDigits characters) =
      (asciiDigits whole, asciiDigits fraction, []) := by
  have front : ∀ character ∈ whole, Text.isDigit character = true :=
    fun character member => decimal.digits character (List.mem_append_left _ member)
  have behind : ∀ character ∈ fraction, Text.isDigit character = true :=
    fun character member => decimal.digits character (List.mem_append_right _ member)
  rcases decimal.written with rfl | ⟨rfl, rfl⟩
  · rw [splitPoint_pointed front, List.takeWhile_eq_self_iff.2 behind,
      List.dropWhile_eq_nil_iff.2 behind]
    rfl
  · exact splitPoint_digits front

/-- A decimal is the number of its digits, with a place for each digit of the
fraction. -/
theorem IsDecimal.unsignedDecimal
    {characters whole fraction : List Char}
    (decimal : IsDecimal characters whole fraction) :
    unsignedDecimal? (asciiDigits characters) =
      some (numberOf (asciiDigits (whole ++ fraction)), -(fraction.length : Int)) := by
  have nonempty : ¬ (asciiDigits whole = [] ∧ asciiDigits fraction = []) := by
    rw [asciiDigits_eq_map, asciiDigits_eq_map, List.map_eq_nil_iff,
      List.map_eq_nil_iff, ← List.append_eq_nil_iff]
    exact decimal.nonempty
  have joined : asciiDigits whole ++ asciiDigits fraction =
      asciiDigits (whole ++ fraction) := List.map_append.symm
  have places : (asciiDigits fraction).length = fraction.length := List.length_map ..
  rw [unsignedDecimal?, decimal.splitPoint]
  simp only [nonempty, if_false, exponent?, Option.map_some, joined, places,
    Int.zero_sub]

/-- Digits and points that are read as a decimal are one. -/
theorem exists_isDecimal
    {characters : List Char}
    (pointed : IsPointed characters)
    (read : (unsignedDecimal? (asciiDigits characters)).isSome = true) :
    ∃ whole fraction, IsDecimal characters whole fraction := by
  obtain ⟨whole, front, rfl | ⟨rest, behind, rfl⟩⟩ := pointed.exists_run
  · refine ⟨characters, [], .inr ⟨rfl, rfl⟩, by simpa using front, fun empty => ?_⟩
    obtain rfl := (List.append_eq_nil_iff.1 empty).1
    cases read
  · obtain ⟨fraction, digits, rfl | ⟨more, -, rfl⟩⟩ := behind.exists_run
    · refine ⟨whole, rest, .inl rfl, ?_, fun empty => ?_⟩
      · exact fun character member =>
          (List.mem_append.1 member).elim (front character) (digits character)
      · obtain ⟨rfl, rfl⟩ := List.append_eq_nil_iff.1 empty
        cases read
    -- a second point is no exponent mark
    · have second : asciiDigits ((fraction ++ '.' :: more).dropWhile Text.isDigit) =
          '.' :: asciiDigits more := by
        rw [Text.dropWhile_run digits (by decide)]
        rfl
      rw [unsignedDecimal?, splitPoint_pointed front, second] at read
      simp [exponent?] at read

end Numeral

/-! ## The number of a text -/

section

variable {R : Type} [Scalar R]

/-- A text of digits with at most one point is the decimal of a number. -/
def Numeral.Spells (characters : List Char) (number : R) : Prop :=
  ∃ whole fraction, IsDecimal characters whole fraction ∧
    number = Scalar.ofDecimal (numberOf (asciiDigits (whole ++ fraction)))
      (-fraction.length)

/-- What a text of digits and points counts as is the number that it spells, and it
counts as nothing else. -/
theorem Value.toScalar_text_eq_ok
    {characters : List Char}
    (pointed : Numeral.IsPointed characters)
    {number : R} :
    (Value.text (String.ofList characters)).toScalar = .ok number ↔
      Numeral.Spells characters number := by
  have read : (Value.text (String.ofList characters)).toScalar = .ok number ↔
      ((Numeral.readReal? (String.ofList characters)).bind Scalar.ofLiteral?) =
        some number := by
    rw [Value.toScalar, Value.readScalar]
    split
    next found => simp [found]
    next missing => simp [missing]
  rw [read, Numeral.readReal_of_isPointed pointed]
  constructor
  · intro found
    have isDecimal : (Numeral.unsignedDecimal? (Numeral.asciiDigits characters)).isSome =
        true := by
      cases missing : Numeral.unsignedDecimal? (Numeral.asciiDigits characters) with
      | none =>
          rw [missing] at found
          cases found
      | some decimal => rfl
    obtain ⟨whole, fraction, decimal⟩ := Numeral.exists_isDecimal pointed isDecimal
    rw [decimal.unsignedDecimal] at found
    exact ⟨whole, fraction, decimal, (Option.some.inj found).symm⟩
  · rintro ⟨whole, fraction, decimal, rfl⟩
    rw [decimal.unsignedDecimal]
    rfl

end

end MelodyAutomation
