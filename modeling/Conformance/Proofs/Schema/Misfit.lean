import Conformance.Proofs.Schema.Totality

/-! # Constraints that cannot be applied

The contract of a scalar looks at the expected number and at the matcher of a text, and at nothing
else of the constraints. What it lets pass may still be unfit for the values it is held against: a
pattern over bytes is searched for in a text, a bound or a tolerance has no order with numbers.
Whether that comes to light depends on the value, because the checks before may already refuse it.
-/

namespace Conformance.Schema

/-- No constraint on a text, or one that calls no predicate. -/
def isQuietString : Value → Bool
  | .null => true
  | .stringSchema matcher => !matcher.isCallable
  | _ => false

/-- No constraint on a number, or one that calls no predicate. -/
def isQuietNumber : Value → Bool
  | .null => true
  | .numberSchema value _ _ _ _ => !value.isCallable
  | _ => false

/-- A constraint reaches an operation that the value and a field of the constraint do not have
together. All checks before that operation have been passed. -/
inductive Misfit (subject : Value) : Value → TypeFault → Prop
  | pattern {p : Pattern} {source : List UInt8} (hkind : subject.kind? = some .string)
      (hsource : p.source = .bytes source) :
      Misfit subject (.stringSchema (.pattern p)) .bytesPatternOnText
  | least {value min max isInteger epsilon : Value} (hkind : subject.kind? = some .number)
      (hwhole : isInteger.truthy = true → isIntegral subject = .ok true)
      (hmin : isBound min = false) :
      Misfit subject (.numberSchema value min max isInteger epsilon)
        (.unordered "<" subject.typeLabel min.typeLabel)
  | greatest {value min max isInteger epsilon : Value} (hkind : subject.kind? = some .number)
      (hwhole : isInteger.truthy = true → isIntegral subject = .ok true)
      (hleast : outside .below subject min = .ok false) (hmax : isBound max = false) :
      Misfit subject (.numberSchema value min max isInteger epsilon)
        (.unordered ">" subject.typeLabel max.typeLabel)
  | tolerance {min max isInteger epsilon : Value} {literal : Binary64}
      (hkind : subject.kind? = some .number)
      (hadmitted :
        admitsNumber subject (.numberSchema (.float literal) min max isInteger epsilon) = .ok true)
      (hfraction : literal.isInteger = false)
      (hdouble : ∀ n, subject.number? = some (.int n) → ¬ Binary64.Beyond n)
      (hepsilon : epsilon.number? = none) :
      Misfit subject (.numberSchema (.float literal) min max isInteger epsilon)
        (.unordered "<" "float" epsilon.typeLabel)

/-- Of the matchers that the contract lets pass and that are no predicates, only a pattern over
bytes is none that a text can be matched with. -/
theorem bytes_or_literal {matcher : Value}
    (hcontract : stringConstraint (.stringSchema matcher) = .ok ())
    (hquiet : matcher.isCallable = false) :
    (∃ p source, matcher = .pattern p ∧ p.source = .bytes source) ∨
      isLiteralString (.stringSchema matcher) = true := by
  have hpart : Value.part (.stringSchema matcher) "matcher" = .ok matcher := rfl
  rw [stringConstraint, hpart] at hcontract
  cases htext : matcher.text? with
  | some text =>
      right
      cases matcher
      case pattern p => cases htext
      all_goals simp [isLiteralString, isLiteralMatcher, htext]
  | none =>
      cases matcher
      case null => exact .inr rfl
      case pattern p =>
        cases hsource : p.source with
        | text text => simp [isLiteralString, isLiteralMatcher, hsource]
        | bytes source => exact .inl ⟨p, source, rfl, hsource⟩
      all_goals simp [htext, hquiet, violated, bind, Except.bind] at hcontract

theorem validateString_stringSchema_error_iff (calls : Interpretation) {subject matcher : Value}
    {fault : Fault}
    (hkind : subject.kind? = some .string)
    (hcontract : stringConstraint (.stringSchema matcher) = .ok ())
    (hquiet : matcher.isCallable = false) :
    (validateString calls subject (.stringSchema matcher)).result = .error fault ↔
      ∃ cause, fault = .type cause ∧ Misfit subject (.stringSchema matcher) cause := by
  rcases bytes_or_literal hcontract hquiet with ⟨p, source, rfl, hsource⟩ | hliteral
  · obtain ⟨text, htext⟩ := Value.text?_of_kind hkind
    have hsearch : searchPattern p subject = .error (.type .bytesPatternOnText) := by
      simp only [searchPattern, hsource, htext]
    rw [validateString_stringSchema]
    simp only [hsearch, Outcome.ofExcept, Except.error.injEq]
    constructor
    · rintro rfl
      exact ⟨_, rfl, .pattern hkind hsource⟩
    · rintro ⟨cause, rfl, hmisfit⟩
      cases hmisfit
      rfl
  · have hanswers := answers_validateString calls hkind hliteral rfl
    constructor
    · exact fun h => absurd h (hanswers.result_ne_error fault)
    · rintro ⟨cause, -, hmisfit⟩
      cases hmisfit with
      | pattern _ hsource => simp [isLiteralString, isLiteralMatcher, hsource] at hliteral

/-! ## Numbers -/

section Numbers

variable {subject value min max isInteger epsilon : Value} {a : Value.Number} {fault : Fault}

/-- A misfit of a number comes to light at a bound, or behind the bounds at the tolerance. -/
theorem misfit_numberSchema_iff (hkind : subject.kind? = some .number)
    (hsubject : subject.number? = some a) {cause : TypeFault} :
    Misfit subject (.numberSchema value min max isInteger epsilon) cause ↔
      admitsNumber subject (.numberSchema value min max isInteger epsilon) = .error (.type cause) ∨
        admitsNumber subject (.numberSchema value min max isInteger epsilon) = .ok true ∧
          ∃ literal, value = .float literal ∧ literal.isInteger = false ∧
            a.toDouble? ≠ none ∧ epsilon.number? = none ∧
              cause = .unordered "<" "float" epsilon.typeLabel := by
  have hbeyond : (∀ n, subject.number? = some (.int n) → ¬ Binary64.Beyond n) ↔
      a.toDouble? ≠ none := by
    simp [Value.Number.toDouble?_eq_none_iff, hsubject]
  rw [admitsNumber_eq_error_iff hsubject]
  constructor
  · intro h
    cases h with
    | least _ hwhole hmin => exact .inl ⟨hwhole, .inl ⟨hmin, rfl⟩⟩
    | greatest _ hwhole hleast hmax => exact .inl ⟨hwhole, .inr ⟨hleast, hmax, rfl⟩⟩
    | tolerance _ hadmitted hfraction hdouble hepsilon =>
        exact .inr ⟨hadmitted, _, rfl, hfraction, hbeyond.mp hdouble, hepsilon, rfl⟩
  · rintro (⟨hwhole, ⟨hmin, hcause⟩ | ⟨hleast, hmax, hcause⟩⟩ |
      ⟨hadmitted, literal, rfl, hfraction, hdouble, hepsilon, rfl⟩)
    · cases hcause
      exact .least hkind hwhole hmin
    · cases hcause
      exact .greatest hkind hwhole hleast hmax
    · exact .tolerance hkind hadmitted hfraction (hbeyond.mpr hdouble) hepsilon

theorem overflowsNumber_iff (hsubject : subject.number? = some a) :
    OverflowsNumber subject (.numberSchema value min max isInteger epsilon) ↔
      admitsNumber subject (.numberSchema value min max isInteger epsilon) = .ok true ∧
        ∃ literal, value = .float literal ∧ literal.isInteger = false ∧ a.toDouble? = none := by
  cases value <;>
    simp [OverflowsNumber, hsubject, Value.Number.toDouble?_eq_none_iff, and_comm, and_left_comm]

theorem validateNumber_numberSchema_error_iff (calls : Interpretation)
    (hkind : subject.kind? = some .number)
    (hcontract : numberConstraint (.numberSchema value min max isInteger epsilon) = .ok ())
    (hquiet : value.isCallable = false) :
    (validateNumber calls subject (.numberSchema value min max isInteger epsilon)).result =
        .error fault ↔
      (∃ cause, fault = .type cause ∧
          Misfit subject (.numberSchema value min max isInteger epsilon) cause) ∨
        fault = .overflow .integerToDouble ∧
          OverflowsNumber subject (.numberSchema value min max isInteger epsilon) := by
  obtain ⟨a, ha⟩ := Value.number?_of_kind hkind
  have hexpected : value.isNull = false → value.kind? = some .number := by
    intro hnull
    have hpart : Value.part (.numberSchema value min max isInteger epsilon) "value" =
        .ok value := rfl
    by_cases hother : value.kind? = some .number
    · exact hother
    · simp [numberConstraint, hpart, hnull, hother, hquiet, violated, bind, Except.bind]
        at hcontract
  have hexpects : (if value.isNull then Outcome.pure true
        else if value.kind? = some .number then
          .ofExcept (matchesLiteral subject value (.numberSchema value min max isInteger epsilon))
        else callMatcher calls value subject).result = .error fault ↔
      matchesLiteral subject value (.numberSchema value min max isInteger epsilon) =
        .error fault := by
    cases hnull : value.isNull with
    | true =>
        cases value
        case null => simp [Outcome.pure, matchesLiteral]
        all_goals cases hnull
    | false => simp [hexpected hnull, Outcome.ofExcept]
  have hbounds : admitsNumber subject (.numberSchema value min max isInteger epsilon) =
      .error fault → ∃ cause, fault = .type cause := by
    rw [admitsNumber_eq_error_iff ha]
    rintro ⟨-, ⟨-, hfault⟩ | ⟨-, -, hfault⟩⟩ <;> exact ⟨_, hfault⟩
  rw [validateNumber_numberSchema, Outcome.result_andThen_eq_error_iff, hexpects,
    Outcome.passed_ofExcept, matchesLiteral_eq_error_iff ha, overflowsNumber_iff ha]
  simp only [misfit_numberSchema_iff hkind ha]
  constructor
  · rintro (hadmits | ⟨hadmits, literal, hvalue, hfraction, ⟨hfault, hdouble⟩ |
      ⟨hdouble, hepsilon, hfault⟩⟩)
    · obtain ⟨cause, rfl⟩ := hbounds hadmits
      exact .inl ⟨cause, rfl, .inl hadmits⟩
    · exact .inr ⟨hfault, hadmits, literal, hvalue, hfraction, hdouble⟩
    · exact .inl ⟨_, hfault, .inr ⟨hadmits, literal, hvalue, hfraction, hdouble, hepsilon, rfl⟩⟩
  · rintro (⟨cause, rfl, hadmits | ⟨hadmits, literal, hvalue, hfraction, hdouble, hepsilon, rfl⟩⟩ |
      ⟨hfault, hadmits, literal, hvalue, hfraction, hdouble⟩)
    · exact .inl hadmits
    · exact .inr ⟨hadmits, literal, hvalue, hfraction, .inr ⟨hdouble, hepsilon, rfl⟩⟩
    · exact .inr ⟨hadmits, literal, hvalue, hfraction, .inl ⟨hfault, hdouble⟩⟩

end Numbers

section Schemas

variable {scalar array object enumeration string number optional nullable subject : Value}
  {fault : Fault}

theorem Misfit.kind_string {cause : TypeFault} (h : Misfit subject string cause)
    (hquiet : isQuietString string = true) : subject.kind? = some .string := by
  cases h with
  | pattern hkind _ => exact hkind
  | least => cases hquiet
  | greatest => cases hquiet
  | tolerance => cases hquiet

theorem Misfit.kind_number {cause : TypeFault} (h : Misfit subject number cause)
    (hquiet : isQuietNumber number = true) : subject.kind? = some .number := by
  cases h with
  | pattern => cases hquiet
  | least hkind => exact hkind
  | greatest hkind => exact hkind
  | tolerance hkind => exact hkind

theorem Misfit.isNull_eq_false {constraint : Value} {cause : TypeFault}
    (h : Misfit subject constraint cause) : constraint.isNull = false := by
  cases h <;> rfl

/-- A misfit of a text is one of a schema for texts. -/
theorem Misfit.of_string {tag : Kind} {cause : TypeFault} (h : Misfit subject string cause)
    (hquiet : isQuietString string = true)
    (hfits : string.isNull = false → tag = .string ∧ stringConstraint string = .ok ()) :
    tag = .string ∧ subject.kind? = some tag := by
  obtain ⟨rfl, -⟩ := hfits h.isNull_eq_false
  exact ⟨rfl, h.kind_string hquiet⟩

/-- A misfit of a number is one of a schema for numbers. -/
theorem Misfit.of_number {tag : Kind} {cause : TypeFault} (h : Misfit subject number cause)
    (hquiet : isQuietNumber number = true)
    (hfits : number.isNull = false → tag = .number ∧ numberConstraint number = .ok ()) :
    tag = .number ∧ subject.kind? = some tag := by
  obtain ⟨rfl, -⟩ := hfits h.isNull_eq_false
  exact ⟨rfl, h.kind_number hquiet⟩

theorem tag_of_overflowsNumber {tag : Kind} (h : OverflowsNumber subject number)
    (hfits : number.isNull = false → tag = .number ∧ numberConstraint number = .ok ()) :
    tag = .number := by
  cases number
  case numberSchema => exact (hfits rfl).1
  all_goals cases h

theorem validateString_error_iff (calls : Interpretation) (hkind : subject.kind? = some .string)
    (hset : string.isNull = false) (hcontract : stringConstraint string = .ok ())
    (hquiet : isQuietString string = true) :
    (validateString calls subject string).result = .error fault ↔
      ∃ cause, fault = .type cause ∧ Misfit subject string cause := by
  cases string <;> simp only [isQuietString, reduceCtorEq] at hquiet
  case null => cases hset
  case stringSchema matcher =>
    exact validateString_stringSchema_error_iff calls hkind hcontract (by simpa using hquiet)

theorem validateNumber_error_iff (calls : Interpretation) (hkind : subject.kind? = some .number)
    (hset : number.isNull = false) (hcontract : numberConstraint number = .ok ())
    (hquiet : isQuietNumber number = true) :
    (validateNumber calls subject number).result = .error fault ↔
      (∃ cause, fault = .type cause ∧ Misfit subject number cause) ∨
        fault = .overflow .integerToDouble ∧ OverflowsNumber subject number := by
  cases number <;> simp only [isQuietNumber, reduceCtorEq] at hquiet
  case null => cases hset
  case numberSchema value min max isInteger epsilon =>
    exact validateNumber_numberSchema_error_iff calls hkind hcontract (by simpa using hquiet)

/-- A scalar schema answers for a value that is of another kind, or that is nothing. -/
theorem validateComplex_answers_of_kind_ne (calls : Interpretation) {tag : Kind}
    (hcontract : aggregation
      (.complexSchema scalar array object enumeration string number optional nullable) =
        .ok .scalar)
    (htag : tag? scalar = some tag) (hkind : subject.kind? ≠ some tag) :
    Answers (validateComplex calls subject
      (.complexSchema scalar array object enumeration string number optional nullable)) := by
  simp only [validateComplex, validate, inferAggregation_of_ok hcontract, Outcome.bind_eq_bind,
    Outcome.bind_pure_left, validateScalar_of_tag calls htag, if_neg hkind]
  cases subject.isNull
  · cases subject.isMissing
    · exact answers_pure false
    · exact answers_pure optional.isTrue
  · exact answers_pure nullable.isTrue

theorem validateComplex_of_kind (calls : Interpretation) {tag : Kind}
    (hcontract : aggregation
      (.complexSchema scalar array object enumeration string number optional nullable) =
        .ok .scalar)
    (htag : tag? scalar = some tag) (hkind : subject.kind? = some tag) :
    validateComplex calls subject
        (.complexSchema scalar array object enumeration string number optional nullable) =
      match tag with
      | .string => if string.isNull then .pure true else validateString calls subject string
      | .number => if number.isNull then .pure true else validateNumber calls subject number
      | .boolean => .pure true := by
  have hnull : subject.isNull = false := by
    cases hnull : subject.isNull with
    | true => exact absurd ((Value.kind?_of_null hnull).symm.trans hkind) (by simp)
    | false => rfl
  have hmissing : subject.isMissing = false := by
    cases hmissing : subject.isMissing with
    | true => exact absurd ((Value.kind?_of_missing hmissing).symm.trans hkind) (by simp)
    | false => rfl
  simp only [validateComplex, validate, inferAggregation_of_ok hcontract, Outcome.bind_eq_bind,
    Outcome.bind_pure_left, validateScalar_of_tag calls htag, if_pos hkind, hnull, hmissing,
    Bool.false_eq_true, if_false]
  cases tag <;> rfl

/-- A scalar whose contract holds and that calls no predicate has an answer for a value, unless the
value comes to a misfit of its constraints or is too large to be subtracted from. -/
theorem validateComplex_error_iff_misfit (calls : Interpretation)
    (hcontract : aggregation
      (.complexSchema scalar array object enumeration string number optional nullable) =
        .ok .scalar)
    (hstring : isQuietString string = true) (hnumber : isQuietNumber number = true) :
    (validateComplex calls subject
        (.complexSchema scalar array object enumeration string number optional
          nullable)).result = .error fault ↔
      (∃ cause, fault = .type cause ∧
          (Misfit subject string cause ∨ Misfit subject number cause)) ∨
        fault = .overflow .integerToDouble ∧ subject.kind? = some .number ∧
          OverflowsNumber subject number := by
  obtain ⟨-, tag, htag, hfitsString, hfitsNumber⟩ := aggregation_eq_ok_iff.mp hcontract
  have hofString : ∀ cause, Misfit subject string cause →
      tag = .string ∧ subject.kind? = some tag := fun _ h => h.of_string hstring hfitsString
  have hofNumber : ∀ cause, Misfit subject number cause →
      tag = .number ∧ subject.kind? = some tag := fun _ h => h.of_number hnumber hfitsNumber
  have hlarge : OverflowsNumber subject number → tag = .number := fun h =>
    tag_of_overflowsNumber h hfitsNumber
  by_cases hkind : subject.kind? = some tag
  · rw [validateComplex_of_kind calls hcontract htag hkind]
    cases tag with
    | string =>
        have hnone : ∀ cause, ¬ Misfit subject number cause := fun cause h => by
          cases (hofNumber cause h).1
        cases hset : string.isNull with
        | true =>
            have hnoMisfit : ∀ cause, ¬ Misfit subject string cause := fun cause h => by
              cases hset.symm.trans h.isNull_eq_false
            simp [Outcome.pure, hnoMisfit, hnone, hkind]
        | false =>
            simp [validateString_error_iff calls hkind hset (hfitsString hset).2 hstring,
              hnone, hkind]
    | number =>
        have hnone : ∀ cause, ¬ Misfit subject string cause := fun cause h => by
          cases (hofString cause h).1
        cases hset : number.isNull with
        | true =>
            have hnoMisfit : ∀ cause, ¬ Misfit subject number cause := fun cause h => by
              cases hset.symm.trans h.isNull_eq_false
            have hsmall : ¬ OverflowsNumber subject number := by
              cases number
              case null => exact id
              all_goals cases hset
            simp [Outcome.pure, hnone, hnoMisfit, hsmall]
        | false =>
            simp [validateNumber_error_iff calls hkind hset (hfitsNumber hset).2 hnumber,
              hnone, hkind]
    | boolean =>
        have hnone : ∀ cause, ¬ (Misfit subject string cause ∨ Misfit subject number cause) := by
          rintro cause (h | h)
          · cases (hofString cause h).1
          · cases (hofNumber cause h).1
        simp [Outcome.pure, hnone, hkind]
  · have hanswers := validateComplex_answers_of_kind_ne calls hcontract htag hkind
    constructor
    · exact fun h => absurd h (hanswers.result_ne_error fault)
    · rintro (⟨cause, -, hmisfit | hmisfit⟩ | ⟨-, hnumeric, hoverflows⟩)
      · exact absurd (hofString cause hmisfit).2 hkind
      · exact absurd (hofNumber cause hmisfit).2 hkind
      · rw [hlarge hoverflows] at hkind
        exact absurd hnumeric hkind

end Schemas

def byteSearch : Value :=
  .complexSchema (.str "string") .null .null .null
    (.stringSchema (.pattern
      ⟨.bytes [0x61], {}, .char ⟨[.range 0x61 0x61], false, .none⟩⟩))
    .null (.bool false) (.bool false)

def nearHalf : Value :=
  .complexSchema (.str "number") .null .null .null .null
    (.numberSchema (.float (.ofUnits false Binary64.one 2)) .null .null (.bool false) .null)
    (.bool false) (.bool false)

theorem validateComplex_error_iff_misfit_bytes :
    (aggregation byteSearch = .ok .scalar ∧
      (validateComplex standard (.str "abc") byteSearch).result =
        .error (.type .bytesPatternOnText)) ∧
    aggregation nearHalf = .ok .scalar ∧
      (validateComplex standard (.int 2) nearHalf).result =
        .error (.type (.unordered "<" "float" "NoneType")) := by
  have hbytes : aggregation byteSearch = .ok .scalar := rfl
  have hhalf : aggregation nearHalf = .ok .scalar := rfl
  have hfraction : (Binary64.ofUnits false Binary64.one 2).isInteger = false := by decide +kernel
  have hdouble : ∀ n, (Value.int 2).number? = some (.int n) → ¬ Binary64.Beyond n := by
    intro n hn
    cases hn
    decide +kernel
  refine ⟨⟨hbytes, ?_⟩, hhalf, ?_⟩
  · exact (validateComplex_error_iff_misfit standard hbytes rfl rfl).mpr
      (.inl ⟨_, rfl, .inl (.pattern rfl rfl)⟩)
  · exact (validateComplex_error_iff_misfit standard hhalf rfl rfl).mpr
      (.inl ⟨_, rfl, .inr (.tolerance rfl rfl hfraction hdouble rfl)⟩)

end Conformance.Schema
