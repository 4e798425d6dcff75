import MelodyAutomation.Envelope.Descriptor
import MelodyAutomation.Proofs.Numeral.Decimals
import MelodyAutomation.Proofs.Value.Quotients

/-!
# The grammar of descriptors

A descriptor is the name of a registered curve, or an application of a function to one or
two factors. Parentheses and stars are no part of a factor, so the factors of an
application end where they meet one, and a text is an application in at most one way
however many parentheses its function has. What a text is decoded to follows from its
form alone: an application of the one known function to numbers is a decay, other
applications are refused for their function or for the first factor that is no number,
and what is neither an application nor a registered name is unknown.
-/

namespace MelodyAutomation
namespace Envelope

/-- A text that may stand for a factor: points and digits, and not none of them. -/
structure IsFactor (characters : List Char) : Prop where
  nonempty : characters ≠ []
  pointed : ∀ character ∈ characters, isFactorCharacter character = true

theorem IsFactor.isPointed
    {characters : List Char}
    (factor : IsFactor characters) :
    Numeral.IsPointed characters := by
  intro character member
  have pointed := factor.pointed character member
  rwa [isFactorCharacter, Bool.or_eq_true, beq_iff_eq] at pointed

theorem IsFactor.reverse
    {characters : List Char}
    (factor : IsFactor characters) :
    IsFactor characters.reverse where
  nonempty := List.reverse_eq_nil_iff.not.2 factor.nonempty
  pointed := fun character member => factor.pointed character (List.mem_reverse.1 member)

/-- The factors of an application, the first one first. -/
def Application.factors (application : Application) : List (List Char) :=
  application.alpha :: application.beta.toList

/-- A text is the written form of an application whose function is on one line and whose
factors are points and digits. -/
structure Application.IsFormOf
    (application : Application)
    (text : List Char) : Prop where
  function : application.function ≠ []
  oneLine : '\n' ∉ application.function
  factors : ∀ factor ∈ application.factors, IsFactor factor
  written : application.written = text

theorem Application.IsFormOf.alpha
    {application : Application}
    {text : List Char}
    (form : application.IsFormOf text) :
    IsFactor application.alpha :=
  form.factors _ List.mem_cons_self

/-! ## Reading an application from its end -/

/-- What `openApplication?` reads backwards is a function and a factor. -/
theorem openApplication_eq_some
    {beta : Option (List Char)}
    {reversed : List Char}
    {application : Application} :
    openApplication? beta reversed = some application ↔
      application.function ≠ [] ∧ '\n' ∉ application.function ∧
        IsFactor application.alpha ∧ application.beta = beta ∧
        reversed = application.alpha.reverse ++ '(' :: application.function.reverse := by
  constructor
  · intro opened
    unfold openApplication? at opened
    simp only at opened
    split at opened
    next function behind =>
      split_ifs at opened with refused
      obtain rfl := Option.some.inj opened
      obtain ⟨nonempty, named, oneLine⟩ := not_or.1 refused |>.imp_right not_or.1
      have whole := List.takeWhile_append_dropWhile (p := isFactorCharacter) (l := reversed)
      rw [behind] at whole
      have factor : IsFactor (reversed.takeWhile isFactorCharacter) :=
        ⟨nonempty, fun _ => List.mem_takeWhile_imp⟩
      refine ⟨?_, ?_, factor.reverse, rfl, ?_⟩
      · exact List.reverse_eq_nil_iff.not.2 named
      · exact List.mem_reverse.not.2 oneLine
      · rw [List.reverse_reverse, List.reverse_reverse, whole]
    next => cases opened
  · rintro ⟨named, oneLine, factor, rfl, rfl⟩
    have stops : isFactorCharacter '(' = false := by decide
    unfold openApplication?
    simp only [Text.takeWhile_run factor.reverse.pointed stops,
      Text.dropWhile_run factor.reverse.pointed stops,
      List.reverse_eq_nil_iff, List.mem_reverse, factor.nonempty, named, oneLine, or_self,
      if_false, List.reverse_reverse]

/-- Reading a text as an application finds the one of which the text is the form, if
there is one. -/
theorem application_eq_some
    {text : List Char}
    {application : Application} :
    application? text = some application ↔ application.IsFormOf text := by
  have parenthesis : isFactorCharacter ')' = false := by decide
  have star : isFactorCharacter '*' = false := by decide
  constructor
  · intro found
    have whole := List.takeWhile_append_dropWhile (p := isFactorCharacter) (l := text.reverse)
    unfold application? at found
    simp only at found
    split at found
    next rest behind =>
      split_ifs at found with last
      obtain ⟨named, oneLine, alpha, absent, rfl⟩ := openApplication_eq_some.1 found
      rw [behind, last] at whole
      refine ⟨named, oneLine, ?_, ?_⟩
      · simp [Application.factors, absent, alpha]
      · rw [← text.reverse_reverse, ← whole]
        simp [Application.written, absent]
    next rest behind =>
      split_ifs at found with last
      obtain ⟨named, oneLine, alpha, present, rfl⟩ := openApplication_eq_some.1 found
      have beta : IsFactor (text.reverse.takeWhile isFactorCharacter) :=
        ⟨last, fun _ => List.mem_takeWhile_imp⟩
      rw [behind] at whole
      refine ⟨named, oneLine, ?_, ?_⟩
      · simp [Application.factors, present, alpha, beta.reverse]
      · rw [← text.reverse_reverse, ← whole]
        simp [Application.written, present]
    next => cases found
  · intro form
    have alpha := form.alpha
    obtain ⟨named, oneLine, factors, rfl⟩ := form
    unfold application? Application.written
    cases last : application.beta with
    | none =>
        have reversed : (application.function ++ '(' :: (application.alpha ++ [')'])).reverse =
            ')' :: (application.alpha.reverse ++ '(' :: application.function.reverse) := by
          simp
        simp only [reversed, List.takeWhile_cons, List.dropWhile_cons, parenthesis,
          Bool.false_eq_true, if_false, if_true]
        exact openApplication_eq_some.2 ⟨named, oneLine, alpha, last, rfl⟩
    | some beta =>
        have isFactor : IsFactor beta := factors _ (by simp [Application.factors, last])
        have reversed :
            (application.function ++ '(' :: (application.alpha ++ ')' :: '*' :: beta)).reverse =
              beta.reverse ++ '*' :: ')' ::
                (application.alpha.reverse ++ '(' :: application.function.reverse) := by
          simp
        simp only [reversed, Text.takeWhile_run isFactor.reverse.pointed star,
          Text.dropWhile_run isFactor.reverse.pointed star, List.reverse_eq_nil_iff,
          isFactor.nonempty, if_false, List.reverse_reverse]
        exact openApplication_eq_some.2 ⟨named, oneLine, alpha, last, rfl⟩

example : application? "horn(1)(2)*.5".toList =
    some ⟨"horn(1)".toList, "2".toList, some ".5".toList⟩ := by
  decide

theorem Application.IsFormOf.unique
    {first second : Application}
    {text : List Char}
    (left : first.IsFormOf text)
    (right : second.IsFormOf text) :
    first = second :=
  Option.some.inj ((application_eq_some.2 left).symm.trans (application_eq_some.2 right))

/-- A registered name is no form of an application. -/
theorem application_of_registered
    {name : String}
    (registered : (registeredCurve? name).isSome = true) :
    application? name.toList = none := by
  have names : ∀ curve ∈ registeredCurves, application? curve.1.toList = none := by decide
  obtain ⟨curve, found⟩ := Option.isSome_iff_exists.1 registered
  obtain ⟨before, behind, split, -⟩ := List.lookup_eq_some_iff.1 found
  exact names (name, curve) (by simp [split])

/-! ## Decoding -/

variable {R : Type} [Machine R]

/-- The number that a text counts as, wherever a text is taken for one. -/
def spelled (characters : List Char) : Attempt R R :=
  (Value.text (String.ofList characters)).toScalar

/-- What a factor of an application counts as: one if it is absent or zero, and otherwise
the number that it spells. -/
inductive CountsAs : Option (List Char) → R → Prop
  | absent : CountsAs none Scalar.one
  | zero {characters : List Char} {number : R} :
      spelled characters = .ok number →
      Scalar.isZero number = true →
      CountsAs (some characters) Scalar.one
  | number {characters : List Char} {number : R} :
      spelled characters = .ok number →
      Scalar.isZero number = false →
      CountsAs (some characters) number

/-- What a text without white space at its ends is decoded to: one constructor for each
form of a text. -/
inductive Decodes (text : List Char) : Attempt R (Spec R) → Prop
  /-- A registered name is decoded to itself. -/
  | named :
      (registeredCurve? (String.ofList text)).isSome = true →
      Decodes text (.ok (.named (.text (String.ofList text))))
  /-- The application of the known function to numbers is decoded to a decay. -/
  | damp {application : Application} {alpha beta : R} :
      application.IsFormOf text →
      application.function = dampFunction.toList →
      CountsAs (some application.alpha) alpha →
      CountsAs application.beta beta →
      Decodes text (.ok (.damp (.real alpha) (.real beta)))
  /-- An application of another function is refused, whatever its factors are. -/
  | unknownFunction {application : Application} :
      application.IsFormOf text →
      application.function ≠ dampFunction.toList →
      Decodes text (.error (.configuration
        (.unknownFunction (String.ofList application.function) (String.ofList text))))
  /-- An application to a first factor that is no number is refused for this factor. -/
  | malformedAlpha {application : Application} :
      application.IsFormOf text →
      application.function = dampFunction.toList →
      (∀ number : R, spelled application.alpha ≠ .ok number) →
      Decodes text (.error (.configuration
        (.malformedFactor (String.ofList application.alpha) (String.ofList text))))
  /-- An application to a number and a second factor that is none is refused for the
  second one. -/
  | malformedBeta {application : Application} {alpha : R} {beta : List Char} :
      application.IsFormOf text →
      application.function = dampFunction.toList →
      spelled application.alpha = .ok alpha →
      application.beta = some beta →
      (∀ number : R, spelled beta ≠ .ok number) →
      Decodes text (.error (.configuration
        (.malformedFactor (String.ofList beta) (String.ofList text))))
  /-- What is neither a registered name nor the form of an application is unknown. -/
  | unknownEnvelope :
      registeredCurve? (String.ofList text) = none →
      (∀ application : Application, ¬ application.IsFormOf text) →
      Decodes text (.error (.configuration (.unknownEnvelope (String.ofList text))))

theorem CountsAs.exists_spelled
    {characters : List Char}
    {number : R}
    (counts : CountsAs (some characters) number) :
    ∃ own : R, spelled characters = .ok own := by
  cases counts with
  | zero read _ => exact ⟨_, read⟩
  | number read _ => exact ⟨_, read⟩

/-- A factor that is there is the number that it spells, or is told to be malformed. -/
theorem factor_some (characters : List Char) (descriptor : String) :
    (factor (some characters) descriptor : Attempt R R) =
      match (spelled characters : Attempt R R) with
      | .ok number => .ok (if Scalar.isZero number then Scalar.one else number)
      | .error _ =>
          .error (.configuration (.malformedFactor (String.ofList characters) descriptor)) := by
  have read : (spelled characters : Attempt R R) =
      Value.readScalar (String.ofList characters) := rfl
  rw [read, factor, Value.readScalar]
  cases ((Numeral.readReal? (String.ofList characters)).bind Scalar.ofLiteral? : Option R) with
  | none => rfl
  | some number => rfl

theorem factor_eq_ok
    {text : Option (List Char)}
    {descriptor : String}
    {number : R} :
    factor text descriptor = .ok number ↔ CountsAs text number := by
  constructor
  · intro decoded
    cases text with
    | none =>
        obtain rfl := Except.ok.inj decoded
        exact .absent
    | some characters =>
        rw [factor_some] at decoded
        split at decoded
        next own read =>
          obtain rfl := Except.ok.inj decoded
          split_ifs with zero
          · exact .zero read zero
          · exact .number read (Bool.eq_false_iff.2 zero)
        next => cases decoded
  · intro counts
    cases counts with
    | absent => rfl
    | zero read zero => simp only [factor_some, read, zero, if_true]
    | number read other => simp [factor_some, read, other]

theorem factor_eq_error
    {text : Option (List Char)}
    {descriptor : String}
    {failure : Failure R} :
    factor text descriptor = .error failure ↔
      ∃ characters, text = some characters ∧
        (∀ number : R, spelled characters ≠ .ok number) ∧
        failure =
          .configuration (.malformedFactor (String.ofList characters) descriptor) := by
  constructor
  · intro refused
    cases text with
    | none => cases refused
    | some characters =>
        rw [factor_some] at refused
        split at refused
        next => cases refused
        next met =>
          refine ⟨characters, rfl, fun number read => ?_, (Except.error.inj refused).symm⟩
          rw [met] at read
          cases read
  · rintro ⟨characters, rfl, unread, rfl⟩
    rw [factor_some]
    split
    next own read => exact absurd read (unread own)
    next => rfl

/-- A text is decoded to what its form stands for. -/
theorem decodes_parseDescriptor (text : String) :
    Decodes (Text.strip text.toList) (parseDescriptor text : Attempt R (Spec R)) := by
  unfold parseDescriptor
  simp only
  cases found : application? (Text.strip text.toList) with
  | none =>
      have formless : ∀ application : Application,
          ¬ application.IsFormOf (Text.strip text.toList) := by
        intro application form
        rw [application_eq_some.2 form] at found
        cases found
      simp only
      split
      next registered => exact .named registered
      next unknown => exact .unknownEnvelope (by simpa using unknown) formless
  | some application =>
      have form := application_eq_some.1 found
      simp only
      split
      next known =>
        have function : application.function = dampFunction.toList := by
          rw [← known, String.toList_ofList]
        cases first : (factor (some application.alpha)
            (String.ofList (Text.strip text.toList)) : Attempt R R) with
        | error failure =>
            obtain ⟨_, same, unread, rfl⟩ := factor_eq_error.1 first
            obtain rfl := Option.some.inj same
            exact .malformedAlpha form function unread
        | ok alpha =>
            have ofAlpha := factor_eq_ok.1 first
            cases second : (factor application.beta
                (String.ofList (Text.strip text.toList)) : Attempt R R) with
            | error failure =>
                obtain ⟨own, read⟩ := ofAlpha.exists_spelled
                obtain ⟨beta, present, unread, rfl⟩ := factor_eq_error.1 second
                exact .malformedBeta form function read present unread
            | ok beta => exact .damp form function ofAlpha (factor_eq_ok.1 second)
      next other =>
        refine .unknownFunction form fun known => other ?_
        rw [known, String.ofList_toList]

/-- What the form of a text stands for is what it is decoded to. -/
theorem Decodes.parseDescriptor_eq
    {text : String}
    {outcome : Attempt R (Spec R)}
    (decodes : Decodes (Text.strip text.toList) outcome) :
    parseDescriptor text = outcome := by
  unfold parseDescriptor
  simp only
  cases decodes with
  | named registered =>
      have formless := application_of_registered registered
      rw [String.toList_ofList] at formless
      simp only [formless, registered, if_true]
  | unknownEnvelope unknown formless =>
      have missing : application? (Text.strip text.toList) = none := by
        rw [Option.eq_none_iff_forall_not_mem]
        exact fun application found => formless application (application_eq_some.1 found)
      simp [missing, unknown]
  | unknownFunction form other =>
      have unknown : String.ofList _ ≠ dampFunction := fun known =>
        other (by rw [← known, String.toList_ofList])
      simp only [application_eq_some.2 form, unknown, if_false]
  | malformedAlpha form function unread =>
      simp only [application_eq_some.2 form, function, String.ofList_toList, if_true,
        factor_eq_error.2 ⟨_, rfl, unread, rfl⟩, Attempt.error_bind]
  | @malformedBeta application alpha beta form function read present unread =>
      have first : ∀ descriptor, (factor (some application.alpha) descriptor : Attempt R R) =
          .ok (if Scalar.isZero alpha then Scalar.one else alpha) := by
        intro descriptor
        rw [factor_some, read]
      simp only [application_eq_some.2 form, function, String.ofList_toList, if_true, first,
        factor_eq_error.2 ⟨_, present, unread, rfl⟩, Attempt.ok_bind, Attempt.error_bind]
  | damp form function ofAlpha ofBeta =>
      simp only [application_eq_some.2 form, function, String.ofList_toList, if_true,
        factor_eq_ok.2 ofAlpha, factor_eq_ok.2 ofBeta, Attempt.ok_bind]

/-- What a factor counts as does not stand for zero. -/
theorem CountsAs.reading_ne_zero
    [Limits]
    {text : Option (List Char)}
    {number : Float}
    (counts : CountsAs text number) :
    Scalar.reading number ≠ .finite 0 := by
  have one : Scalar.isZero (Scalar.one : Float) = false := by decide +kernel
  rw [Ne, ← Scalar.isZero_iff, Bool.not_eq_true]
  cases counts with
  | absent => exact one
  | zero _ _ => exact one
  | number _ other => exact other

/-- A text that is refused is refused for a fault of the configuration, which can be
told. -/
theorem Decodes.told_of_error
    {text : List Char}
    {failure : Failure R}
    (decodes : Decodes text (.error failure)) :
    ∃ fault, failure = .configuration fault ∧ failure.told = failure := by
  cases decodes <;> exact ⟨_, rfl, rfl⟩

/-- A text is decoded by its form. -/
structure FollowsGrammar [Limits] (text : String) : Prop where
  /-- The text without the white space at its ends decides what it is decoded to. -/
  decoded : ∀ outcome : Attempt Float (Spec Float),
    parseDescriptor text = outcome ↔ Decodes (Text.strip text.toList) outcome
  /-- It is the form of one application at most. -/
  unique : ∀ first second : Application,
    first.IsFormOf (Text.strip text.toList) →
    second.IsFormOf (Text.strip text.toList) → first = second
  /-- A factor of it is a number exactly when it has a digit and at most one point. -/
  numbers : ∀ application : Application,
    application.IsFormOf (Text.strip text.toList) →
    ∀ factor ∈ application.factors, ∀ number : Float,
      spelled factor = .ok number ↔ Numeral.Spells factor number
  /-- The rate and the peak of a decay do not stand for zero. -/
  nonzero : ∀ alpha beta : Value Float,
    parseDescriptor text = .ok (.damp alpha beta) →
    ∃ rate peak : Float, alpha = .real rate ∧ beta = .real peak ∧
      Scalar.reading rate ≠ .finite 0 ∧ Scalar.reading peak ≠ .finite 0
  /-- Every refusal is a fault of the configuration, and is told as it is. -/
  told : ∀ failure : Failure Float,
    parseDescriptor text = .error failure →
    ∃ fault, failure = .configuration fault ∧ failure.told = failure

/-- Every text is decoded by its form, and has only one. -/
theorem descriptor_follows_grammar [Limits] (text : String) : FollowsGrammar text where
  decoded := by
    intro outcome
    constructor
    · rintro rfl
      exact decodes_parseDescriptor text
    · exact Decodes.parseDescriptor_eq
  unique := fun _ _ => Application.IsFormOf.unique
  numbers := fun _ form factor member _ =>
    Value.toScalar_text_eq_ok (form.factors factor member).isPointed
  nonzero := by
    intro alpha beta parsed
    have decodes : Decodes (Text.strip text.toList) (.ok (.damp alpha beta)) :=
      parsed ▸ decodes_parseDescriptor text
    cases decodes with
    | damp form function ofAlpha ofBeta =>
        exact ⟨_, _, rfl, rfl, ofAlpha.reading_ne_zero, ofBeta.reading_ne_zero⟩
  told := fun _ refused =>
    Decodes.told_of_error (refused ▸ decodes_parseDescriptor text)

end Envelope
end MelodyAutomation
