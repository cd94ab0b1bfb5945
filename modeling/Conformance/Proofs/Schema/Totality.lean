import Conformance.Proofs.Schema.Container
import Conformance.Proofs.Schema.Scalar
import Conformance.Proofs.Schema.Trace
import Conformance.Proofs.Value.Position
import Conformance.Schema.Record

/-! # When validation answers

A schema without predicates, whose constraints are of the types they are declared with, answers on
every value but for one case: an integer beyond the doubles that is to be compared, within a
tolerance, with a number that is not whole. The comparison subtracts, and the subtraction cannot
take the integer. Every other comparison, search and look-up is defined for all values that reach
it.
-/

namespace Conformance.Schema

def isBound (bound : Value) : Bool := bound.isNull || bound.number?.isSome

def isCount (count : Value) : Bool :=
  match count.number? with
  | some (.int _) => true
  | _ => count.isNull

def isLiteralMatcher (matcher : Value) : Bool :=
  match matcher with
  | .null => true
  | .pattern p =>
    match p.source with
    | .text _ => true
    | .bytes _ => false
  | _ => matcher.text?.isSome

def isLiteralString : Value → Bool
  | .null => true
  | .stringSchema matcher => isLiteralMatcher matcher
  | _ => false

def isLiteralNumber : Value → Bool
  | .null => true
  | .numberSchema value min max _ epsilon =>
    (value.isNull || value.kind? == some .number) && isBound min && isBound max
      && epsilon.number?.isSome
  | _ => false

def isLiteralArray : Value → Bool
  | .null => true
  | .arraySchema _ length minLength maxLength matcher =>
    isCount length && isCount minLength && isCount maxLength && matcher.isNull
  | _ => false

def isLiteralObject : Value → Bool
  | .null => true
  | .objectSchema members _ matcher => (entriesOf? members).isSome && matcher.isNull
  | _ => false

def isLiteralEnumeration : Value → Bool
  | .null | .list _ | .tuple _ => true
  | _ => false

/-- A tag, or a schema that satisfies the contract, has no predicate and constrains texts by texts
and patterns over text, numbers by numbers, lengths by integers, and choices by a row of values. -/
def Literal (schema : Value) : Prop :=
  match schema with
  | .complexSchema _ array object enumeration string number _ _ =>
    (∃ kind, aggregation schema = .ok kind) ∧ isLiteralArray array = true ∧
      isLiteralObject object = true ∧ isLiteralEnumeration enumeration = true ∧
      isLiteralString string = true ∧ isLiteralNumber number = true
  | _ => isSimple schema = true

/-! ## The one fault -/

/-- A number that passes the conditions before it, is an integer beyond the doubles, and meets an
expected value that is not whole. -/
def OverflowsNumber (value number : Value) : Prop :=
  match number with
  | .numberSchema (.float literal) _ _ _ _ =>
    literal.isInteger = false ∧
      (∃ n, value.number? = some (.int n) ∧ Binary64.Beyond n) ∧
      admitsNumber value number = .ok true
  | _ => False

def Overflows (value schema : Value) : Prop :=
  match schema with
  | .complexSchema _ _ _ _ _ number _ _ =>
    value.kind? = some .number ∧ OverflowsNumber value number
  | _ => False

section Numbers

variable {subject value min max isInteger epsilon : Value} {a : Value.Number} {fault : Fault}

theorem outside_answers (comparison : Value.Comparison) {bound : Value}
    (hsubject : subject.number? = some a) (hbound : isBound bound = true) :
    ∃ broken, outside comparison subject bound = .ok broken := by
  unfold outside
  cases hnull : bound.isNull with
  | true => exact ⟨false, rfl⟩
  | false =>
      obtain ⟨b, hb⟩ := Option.isSome_iff_exists.mp (by simpa [isBound, hnull] using hbound)
      exact ⟨_, Value.compare_of_numbers comparison hsubject hb⟩

theorem outside_eq_error_iff {comparison : Value.Comparison} {bound : Value}
    (hsubject : subject.number? = some a) :
    outside comparison subject bound = .error fault ↔
      isBound bound = false ∧ fault = Value.unordered false comparison subject bound := by
  cases hbound : isBound bound with
  | true =>
      obtain ⟨broken, hbroken⟩ := outside_answers comparison hsubject hbound
      simp [hbroken]
  | false =>
      obtain ⟨hnull, hnumber⟩ : bound.isNull = false ∧ bound.number? = none := by
        simpa [isBound] using hbound
      rw [outside, hnull, if_neg Bool.false_ne_true,
        Value.compare_of_not_number comparison hsubject hnumber]
      simp [eq_comm]

theorem outsideBounds_eq_error_iff (hsubject : subject.number? = some a) :
    outsideBounds subject (.numberSchema value min max isInteger epsilon) = .error fault ↔
      isBound min = false ∧ fault = Value.unordered false .below subject min ∨
        outside .below subject min = .ok false ∧ isBound max = false ∧
          fault = Value.unordered false .above subject max := by
  rw [outsideBounds_numberSchema, ← outside_eq_error_iff hsubject, ← outside_eq_error_iff hsubject]
  cases outside .below subject min with
  | error cause => simp [Except.bind]
  | ok below => cases below <;> simp [Except.bind]

theorem isIntegral_of_number (hsubject : subject.number? = some a) :
    isIntegral subject = .ok a.isIntegral := by
  simp [isIntegral, hsubject]

theorem admitsNumber_eq_error_iff (hsubject : subject.number? = some a) :
    admitsNumber subject (.numberSchema value min max isInteger epsilon) = .error fault ↔
      (isInteger.truthy = true → isIntegral subject = .ok true) ∧
        (isBound min = false ∧ fault = Value.unordered false .below subject min ∨
          outside .below subject min = .ok false ∧ isBound max = false ∧
            fault = Value.unordered false .above subject max) := by
  have hpart : Value.part (.numberSchema value min max isInteger epsilon) "is_integer" =
      .ok isInteger := rfl
  rw [← outsideBounds_eq_error_iff hsubject, admitsNumber, hpart, isIntegral_of_number hsubject]
  cases hi : isInteger.truthy <;> cases a.isIntegral <;>
    cases outsideBounds subject (.numberSchema value min max isInteger epsilon) <;>
    simp [bind, Except.bind, pure, Except.pure, hi]

theorem admitsNumber_answers (hsubject : subject.number? = some a) (hmin : isBound min = true)
    (hmax : isBound max = true) :
    ∃ admitted, admitsNumber subject (.numberSchema value min max isInteger epsilon) =
      .ok admitted := by
  cases hadmits : admitsNumber subject (.numberSchema value min max isInteger epsilon) with
  | ok admitted => exact ⟨admitted, rfl⟩
  | error fault =>
      obtain ⟨-, ⟨hless, -⟩ | ⟨-, hgreater, -⟩⟩ := (admitsNumber_eq_error_iff hsubject).mp hadmits
      · simp [hmin] at hless
      · simp [hmax] at hgreater

theorem compare_epsilon_eq_error_iff {difference : Binary64} :
    Value.compare .below (.float difference) epsilon = .error fault ↔
      epsilon.number? = none ∧ fault = .type (.unordered "<" "float" epsilon.typeLabel) := by
  cases hepsilon : epsilon.number? with
  | none =>
      rw [Value.compare_of_not_number .below rfl hepsilon]
      simp [Value.unordered, Value.Comparison.symbol, Value.typeLabel, Value.typeName, eq_comm]
  | some b =>
      have hnumber : (Value.float difference).number? = some (.float difference) := rfl
      simp [Value.compare_of_numbers .below hnumber hepsilon]

/-- Beside a literal that is not whole the value is converted, and the difference is held against
the tolerance. -/
theorem matchesLiteral_eq_error_iff (hsubject : subject.number? = some a) :
    matchesLiteral subject value (.numberSchema value min max isInteger epsilon) = .error fault ↔
      ∃ literal, value = .float literal ∧ literal.isInteger = false ∧
        (fault = .overflow .integerToDouble ∧ a.toDouble? = none ∨
          a.toDouble? ≠ none ∧ epsilon.number? = none ∧
            fault = .type (.unordered "<" "float" epsilon.typeLabel)) := by
  rw [matchesLiteral_numberSchema]
  cases value
  case float literal =>
    cases hwhole : literal.isInteger with
    | true => simp [hwhole]
    | false =>
        cases hdouble : a.toDouble? with
        | none =>
            have hminus : subject.minus literal = .error (.overflow .integerToDouble) :=
              (Value.minus_eq_error_iff hsubject).mpr ⟨rfl, hdouble⟩
            simpa [hminus, Except.bind, hwhole] using eq_comm
        | some d =>
            have hminus : ∀ cause, subject.minus literal ≠ .error cause := by
              simp [Value.minus_eq_error_iff hsubject, hdouble]
            cases hdifference : subject.minus literal with
            | error cause => exact absurd hdifference (hminus cause)
            | ok difference =>
                simp [hdifference, Except.bind, compare_epsilon_eq_error_iff, hwhole]
  all_goals simp

theorem matchesLiteral_eq_error_iff_of_tolerance (hsubject : subject.number? = some a)
    (hepsilon : epsilon.number?.isSome = true) :
    matchesLiteral subject value (.numberSchema value min max isInteger epsilon) = .error fault ↔
      fault = .overflow .integerToDouble ∧ a.toDouble? = none ∧
        ∃ literal, value = .float literal ∧ literal.isInteger = false := by
  obtain ⟨b, hb⟩ := Option.isSome_iff_exists.mp hepsilon
  rw [matchesLiteral_eq_error_iff hsubject]
  simp only [hb, reduceCtorEq, false_and, and_false, or_false]
  constructor
  · rintro ⟨literal, hvalue, hfraction, hfault, hdouble⟩
    exact ⟨hfault, hdouble, literal, hvalue, hfraction⟩
  · rintro ⟨hfault, hdouble, literal, hvalue, hfraction⟩
    exact ⟨literal, hvalue, hfraction, hfault, hdouble⟩

theorem validateNumber_eq_error_iff {number : Value} (calls : Interpretation)
    (hkind : subject.kind? = some .number) (hliteral : isLiteralNumber number = true)
    (hnumber : number.isNull = false) {fault : Fault} :
    (validateNumber calls subject number).result = .error fault ↔
      fault = .overflow .integerToDouble ∧ OverflowsNumber subject number := by
  obtain ⟨a, ha⟩ := Value.number?_of_kind hkind
  cases number <;> simp only [isLiteralNumber, reduceCtorEq] at hliteral
  case null => cases hnumber
  case numberSchema value min max isInteger epsilon =>
    simp only [Bool.and_eq_true, Bool.or_eq_true, beq_iff_eq] at hliteral
    obtain ⟨⟨⟨hvalue, hmin⟩, hmax⟩, hepsilon⟩ := hliteral
    obtain ⟨admitted, hadmitted⟩ :
        ∃ admitted, admitsNumber subject (.numberSchema value min max isInteger epsilon) =
          .ok admitted := admitsNumber_answers ha hmin hmax
    rw [validateNumber_numberSchema, Outcome.result_andThen_eq_error_iff, hadmitted]
    cases hnull : value.isNull with
    | true =>
        cases value
        case null => simp [Outcome.pure, OverflowsNumber]
        all_goals cases hnull
    | false =>
        have hnumeric : value.kind? = some .number := by simpa [hnull] using hvalue
        have hoverflows : OverflowsNumber subject (.numberSchema value min max isInteger epsilon) ↔
            (∃ literal, value = .float literal ∧ literal.isInteger = false) ∧
              a.toDouble? = none ∧ admitted = true := by
          cases value <;>
            simp [OverflowsNumber, ha, hadmitted, Value.Number.toDouble?_eq_none_iff]
        have hmatches : matchesLiteral subject value
              (.numberSchema value min max isInteger epsilon) = .error fault ↔
            fault = .overflow .integerToDouble ∧ a.toDouble? = none ∧
              ∃ literal, value = .float literal ∧ literal.isInteger = false :=
          matchesLiteral_eq_error_iff_of_tolerance ha hepsilon
        rw [hoverflows, if_neg Bool.false_ne_true, if_pos hnumeric, Outcome.ofExcept_ok,
          Outcome.passed_pure]
        simp only [Outcome.pure, reduceCtorEq, false_or, Outcome.ofExcept, hmatches]
        constructor
        · rintro ⟨hadmits, hfault, hlarge, hliteral⟩
          exact ⟨hfault, hliteral, hlarge, hadmits⟩
        · rintro ⟨hfault, hliteral, hlarge, hadmits⟩
          exact ⟨hadmits, hfault, hlarge, hliteral⟩

end Numbers

/-! ## Everything else answers -/

def Answers (test : Outcome Bool) : Prop := ∃ passed, test.result = .ok passed

theorem Answers.result_ne_error {test : Outcome Bool} (h : Answers test) (fault : Fault) :
    test.result ≠ .error fault := by
  obtain ⟨passed, hpassed⟩ := h
  simp [hpassed]

theorem answers_pure (passed : Bool) : Answers (.pure passed) := ⟨passed, rfl⟩

theorem Answers.andThen {first second : Outcome Bool} (h : Answers first)
    (g : Answers second) : Answers (first.andThen second) := by
  by_cases hfirst : first.Passed
  · rw [Outcome.andThen_of_passed hfirst]
    exact g
  · rw [Outcome.andThen_of_not_passed hfirst]
    exact h

theorem answers_passesMatcher {matcher : Value} (calls : Interpretation) (value : Value)
    (h : matcher.isNull = true) : Answers (passesMatcher calls matcher value) := by
  rw [passesMatcher, h]
  exact answers_pure true

theorem isBound_of_isCount {count : Value} (h : isCount count = true) : isBound count = true := by
  unfold isCount at h
  unfold isBound
  cases hnumber : count.number? with
  | none => simpa [hnumber] using h
  | some a => simp

theorem answers_admitsLength {length minLength maxLength : Value} (size : Nat)
    (hmin : isCount minLength = true) (hmax : isCount maxLength = true) :
    Answers (.ofExcept (admitsLength size length minLength maxLength)) := by
  have hsize : (Value.int size).number? = some (.int size) := rfl
  obtain ⟨below, hbelow⟩ := outside_answers .below hsize (isBound_of_isCount hmin)
  obtain ⟨above, habove⟩ := outside_answers .above hsize (isBound_of_isCount hmax)
  rw [admitsLength, hbelow, habove]
  split
  · exact answers_pure false
  · cases below
    · exact answers_pure (!above)
    · exact answers_pure false

theorem answers_checkArray {array : Value} (calls : Interpretation) (value : Value)
    (hliteral : isLiteralArray array = true) (harray : array.isNull = false) :
    Answers (checkArray calls value array) := by
  cases array <;> simp only [isLiteralArray, reduceCtorEq] at hliteral
  case null => cases harray
  case arraySchema itemType length minLength maxLength matcher =>
    simp only [Bool.and_eq_true] at hliteral
    obtain ⟨⟨⟨hlength, hmin⟩, hmax⟩, hmatcher⟩ := hliteral
    unfold checkArray
    cases value.items? with
    | none => exact answers_pure false
    | some items =>
        show Answers (admitsArray calls value items.length length minLength maxLength matcher)
        rw [admitsArray_eq_andThen]
        exact (answers_admitsLength items.length hmin hmax).andThen
          (answers_passesMatcher calls value hmatcher)

/-- The keys of a record can be looked up, since each of them has a hash. -/
theorem declared_answers {members : Value} {known entries : Value.Entries}
    (hmembers : entriesOf? members = some known)
    (hkeys : ∀ e ∈ entries, Value.unhashable? e.1 = none) :
    ∃ passed, declared members entries = .ok passed := by
  induction entries with
  | nil => exact ⟨true, rfl⟩
  | cons e entries ih =>
      obtain ⟨passed, hpassed⟩ := ih fun e' he' => hkeys e' (List.mem_cons_of_mem e he')
      obtain ⟨name, member⟩ := e
      have hname : Value.unhashable? name = none := hkeys (name, member) List.mem_cons_self
      have hcontains : members.contains name = .ok (Value.find? known name).isSome := by
        rw [contains_of_mapping hmembers, Value.lookup, hname]
        rfl
      rw [declared, hcontains]
      cases (Value.find? known name).isSome
      · exact ⟨false, rfl⟩
      · exact ⟨passed, hpassed⟩

theorem answers_checkObject {object value : Value} (calls : Interpretation)
    (hliteral : isLiteralObject object = true) (hobject : object.isNull = false)
    (hvalue : Value.WellKeyed value) : Answers (checkObject calls value object) := by
  cases object <;> simp only [isLiteralObject, reduceCtorEq] at hliteral
  case null => cases hobject
  case objectSchema members allowExtraMembers matcher =>
    simp only [Bool.and_eq_true] at hliteral
    obtain ⟨hmembers, hmatcher⟩ := hliteral
    obtain ⟨known, hknown⟩ := Option.isSome_iff_exists.mp hmembers
    unfold checkObject
    cases hentries : value.entries? with
    | none => exact answers_pure false
    | some entries =>
        obtain ⟨⟨hkeys, -⟩, -⟩ := hvalue.of_mapping (Value.mapping?_of_entries hentries).1
        obtain ⟨passed, hpassed⟩ := declared_answers hknown hkeys
        have hadmits : Answers
            (admitsObject calls value entries members allowExtraMembers matcher) := by
          have hmatched := answers_passesMatcher calls value hmatcher
          unfold admitsObject
          cases allowExtraMembers.truthy with
          | true => simpa using hmatched
          | false =>
              cases passed <;> simp [hpassed, hmatched, answers_pure]
        refine hadmits.andThen ?_
        rw [enumerable, hknown]
        exact answers_pure true

theorem validateEnum_answers {enumeration : Value} (value : Value)
    (hliteral : isLiteralEnumeration enumeration = true) (henum : enumeration.isNull = false) :
    Answers (.ofExcept (validateEnum value enumeration)) := by
  cases enumeration <;> simp only [isLiteralEnumeration, reduceCtorEq] at hliteral
  case null => cases henum
  all_goals exact ⟨_, rfl⟩

theorem answers_validateString {string subject : Value} (calls : Interpretation)
    (hkind : subject.kind? = some .string) (hliteral : isLiteralString string = true)
    (hstring : string.isNull = false) : Answers (validateString calls subject string) := by
  obtain ⟨s, hs⟩ := Value.text?_of_kind hkind
  cases string <;> simp only [isLiteralString, reduceCtorEq] at hliteral
  case null => cases hstring
  case stringSchema matcher =>
    cases htext : matcher.text? with
    | some t =>
        rw [validateString_of_text calls subject htext]
        exact answers_pure (Value.equal subject matcher)
    | none =>
        rw [validateString_stringSchema]
        cases matcher
        case null => exact answers_pure true
        case pattern p =>
          cases hsource : p.source with
          | text t => exact ⟨_, searchPattern_of_text hsource hs⟩
          | bytes b => simp [isLiteralMatcher, hsource] at hliteral
        all_goals simp [isLiteralMatcher, htext] at hliteral

/-! ## The whole validation -/

section Structured

variable {scalar array object enumeration string number optional nullable value : Value}

/-- Only a number field overflows, and the contract allows it only beside a number tag. -/
theorem scalar_of_overflows {kind : Aggregation}
    (hkind : aggregation
      (.complexSchema scalar array object enumeration string number optional nullable) = .ok kind)
    (h : OverflowsNumber value number) :
    kind = .scalar ∧ tag? scalar = some .number ∧ number.isNull = false := by
  have hnumber : number.isNull = false := by
    cases number <;> first | rfl | exact h.elim
  obtain ⟨-, hconstrained⟩ := aggregation_eq_ok_iff.mp hkind
  cases kind with
  | scalar =>
      obtain ⟨kind, htag, -, hfits⟩ := hconstrained
      obtain ⟨rfl, -⟩ := hfits hnumber
      exact ⟨rfl, htag, hnumber⟩
  | array => exact absurd (hconstrained.2.symm.trans hnumber) (by simp)
  | object => exact absurd (hconstrained.2.symm.trans hnumber) (by simp)
  | enumeration => exact absurd (hconstrained.2.symm.trans hnumber) (by simp)

theorem validateScalar_eq_error_iff (calls : Interpretation) {kind : Kind} {fault : Fault}
    (htag : tag? scalar = some kind) (hnumber : number.isNull = false → kind = .number)
    (hliteralString : isLiteralString string = true)
    (hliteralNumber : isLiteralNumber number = true) :
    (validateScalar calls value
        (.complexSchema scalar array object enumeration string number optional
          nullable)).result = .error fault ↔
      fault = .overflow .integerToDouble ∧ value.kind? = some .number ∧
        OverflowsNumber value number := by
  have hnone : number.isNull = true → ¬ OverflowsNumber value number := by
    intro hnull
    cases number <;> first | exact id | cases hnull
  rw [validateScalar_of_tag calls htag]
  by_cases hkind : value.kind? = some kind
  · rw [if_pos hkind]
    cases kind with
    | number =>
        cases hnull : number.isNull with
        | true => simp [Outcome.pure, hnone hnull]
        | false => simp [validateNumber_eq_error_iff calls hkind hliteralNumber hnull, hkind]
    | string =>
        have hanswers : Answers (if string.isNull then .pure true
            else validateString calls value string) := by
          cases hnull : string.isNull with
          | true => exact answers_pure true
          | false => exact answers_validateString calls hkind hliteralString hnull
        simp [hanswers.result_ne_error, hkind]
    | boolean => simp [Outcome.pure, hkind]
  · rw [if_neg hkind]
    constructor
    · intro h
      simp [Outcome.pure] at h
    · rintro ⟨-, hnumeric, hoverflows⟩
      have hkind' : kind = .number := hnumber (by
        cases hnull : number.isNull with
        | true => exact absurd hoverflows (hnone hnull)
        | false => rfl)
      exact absurd (hkind' ▸ hnumeric) hkind

end Structured

/-- The check of a literal schema faults on nothing but the overflow. -/
theorem check_eq_error_iff (calls : Interpretation) {value schema : Value} {fault : Fault}
    (hliteral : Literal schema) (hvalue : Value.WellKeyed value) :
    (check calls value schema).result = .error fault ↔
      fault = .overflow .integerToDouble ∧ Overflows value schema := by
  cases schema
  case complexSchema scalar array object enumeration string number optional nullable =>
    obtain ⟨⟨kind, hkind⟩, harray, hobject, henum, hstring, hnumber⟩ := hliteral
    obtain ⟨hpresent, hconstrained⟩ := aggregation_eq_ok_iff.mp hkind
    have hset := (present_eq_singleton.mp hpresent kind).mpr rfl
    have hfree : kind ≠ .scalar → ¬ (value.kind? = some .number ∧ OverflowsNumber value number) :=
      fun hne hoverflows => hne (scalar_of_overflows hkind hoverflows.2).1
    simp only [check, inferAggregation_of_ok hkind, Outcome.bind_pure_left, Overflows]
    by_cases hnull : value.isNull
    · have hnone : value.kind? ≠ some .number := by
        cases value <;> simp [Value.isNull, Value.kind?] at hnull ⊢
      simp [hnull, hnone, Outcome.pure]
    by_cases hmissing : value.isMissing
    · have hnone : value.kind? ≠ some .number := by
        cases value <;> simp [Value.isMissing, Value.kind?] at hmissing ⊢
      simp [hnull, hmissing, hnone, Outcome.pure]
    simp only [hnull, hmissing, Bool.false_eq_true, if_false]
    cases kind with
    | scalar =>
        obtain ⟨tag, htag, -, hfits⟩ := hconstrained
        exact validateScalar_eq_error_iff calls htag (fun h => (hfits h).1) hstring hnumber
    | array =>
        have hanswers := answers_checkArray calls value harray hset
        simp [hanswers.result_ne_error, hfree]
    | object =>
        have hanswers := answers_checkObject calls hobject hset hvalue
        simp [hanswers.result_ne_error, hfree]
    | enumeration =>
        have hanswers := validateEnum_answers value henum hset
        simp [hanswers.result_ne_error, hfree]
  all_goals
    have hsimple : isSimple _ = true := hliteral
    simp [check, hsimple, Overflows, Outcome.pure]

/-- What a record has for a name is well-keyed, also when it has nothing. -/
theorem wellKeyed_memberValue {entries : Value.Entries}
    (h : ∀ e ∈ entries, Value.WellKeyed e.2) (name : Value) :
    Value.WellKeyed (memberValue entries name) := by
  rw [memberValue]
  cases hfound : Value.find? entries name with
  | none => exact .of_flat trivial rfl
  | some member =>
      obtain ⟨e, he, rfl⟩ := Option.map_eq_some_iff.mp hfound
      exact h e (List.mem_of_find?_eq_some he)

/-- A well-keyed value hands on well-keyed parts. -/
theorem wellKeyed_of_mem_children {value schema : Value} {q : Value × Value}
    (h : Value.WellKeyed value) (hq : q ∈ children value schema) : Value.WellKeyed q.1 := by
  obtain ⟨-, ⟨items, hitems, hitem⟩ | ⟨entries, name, hentries, hmember⟩⟩ := mem_children hq
  · exact h.of_sequence (Value.sequence?_of_items hitems).1 q.1 hitem
  · rw [hmember]
    exact wellKeyed_memberValue (h.of_mapping (Value.mapping?_of_entries hentries).1).2 name

/-- Validation without predicates answers, unless the checks passed from left to right lead up to a
number that overflows. -/
theorem validate_faults_iff_overflows (calls : Interpretation) {value schema : Value}
    {fault : Fault} (hliteral : Every Literal schema) (hvalue : Value.WellKeyed value) :
    (validate calls value schema).result = .error fault ↔
      fault = .overflow .integerToDouble ∧
        ∃ before q after, trace value schema = before ++ q :: after ∧
          (∀ p ∈ before, (check calls p.1 p.2).Passed) ∧ Overflows q.1 q.2 := by
  have htrace : ∀ q ∈ trace value schema, Every Literal q.2 ∧ Value.WellKeyed q.1 := by
    apply @forall_mem_trace fun value schema => Every Literal schema ∧ Value.WellKeyed value
    · intro value schema h q hq
      exact ⟨h.1.part (mem_parts_of_mem_children hq), wellKeyed_of_mem_children h.2 hq⟩
    · exact ⟨hliteral, hvalue⟩
  have hcheck : ∀ q ∈ trace value schema, (check calls q.1 q.2).result = .error fault ↔
      fault = .overflow .integerToDouble ∧ Overflows q.1 q.2 := fun q hq =>
    check_eq_error_iff calls (htrace q hq).1.root (htrace q hq).2
  rw [validate_eq_all_trace]
  constructor
  · intro h
    rcases Outcome.first_failure (fun q : Value × Value => check calls q.1 q.2)
        (trace value schema) with hall | ⟨before, q, after, hsplit, hbefore, hq⟩
    · rw [Outcome.all_of_passed hall] at h
      cases h
    · rw [hsplit, Outcome.all_of_first_failure hbefore hq] at h
      have hmem : q ∈ trace value schema := by simp [hsplit]
      obtain ⟨hfault, hoverflows⟩ := (hcheck q hmem).mp h
      exact ⟨hfault, before, q, after, hsplit, hbefore, hoverflows⟩
  · rintro ⟨hfault, before, q, after, hsplit, hbefore, hoverflows⟩
    have hmem : q ∈ trace value schema := by simp [hsplit]
    have hq := (hcheck q hmem).mpr ⟨hfault, hoverflows⟩
    have hfails : ¬ (check calls q.1 q.2).Passed := by simp [Outcome.Passed, hq]
    rw [hsplit, Outcome.all_of_first_failure hbefore hfails]
    exact hq

/-- A number within the least tolerance of one half. -/
def aboutHalf : Value :=
  .complexSchema (.str "number") .null .null .null .null
    (.numberSchema (.float (.ofUnits false Binary64.one 2)) .null .null (.bool false)
      (.float defaultEpsilon))
    (.bool false) (.bool false)

def fourHundredZeros : Int := Int.ofNat (Nat.pow 10 400)

theorem literal_aboutHalf : Every Literal aboutHalf := by
  refine .intro ⟨⟨.scalar, rfl⟩, rfl, rfl, rfl, rfl, rfl⟩ ?_
  intro part hpart
  simp [aboutHalf, parts, itemTypes, declarations] at hpart

theorem overflows_aboutHalf : Overflows (.int fourHundredZeros) aboutHalf := by
  have hbeyond : Binary64.Beyond fourHundredZeros := by decide +kernel
  have hfraction : (Binary64.ofUnits false Binary64.one 2).isInteger = false := by
    decide +kernel
  refine ⟨rfl, hfraction, ⟨fourHundredZeros, rfl, hbeyond⟩, ?_⟩
  rw [admitsNumber_eq_ok_true_iff]
  exact ⟨fun h => absurd h (by decide), rfl, rfl⟩

/-- The integer is no number within the tolerance, but the answer is a fault. -/
theorem validate_aboutHalf_faults :
    Every Literal aboutHalf ∧ Value.WellKeyed (.int fourHundredZeros) ∧
      (validate (fun _ _ => .ok .null) (.int fourHundredZeros) aboutHalf).result =
        .error (.overflow .integerToDouble) := by
  have hkeyed : Value.WellKeyed (.int fourHundredZeros) := .of_flat trivial rfl
  refine ⟨literal_aboutHalf, hkeyed, ?_⟩
  have hfaults := @validate_faults_iff_overflows (fun _ _ => .ok .null) (.int fourHundredZeros)
    aboutHalf (.overflow .integerToDouble) literal_aboutHalf hkeyed
  refine hfaults.mpr ⟨rfl, [], (.int fourHundredZeros, aboutHalf), [], ?_, by simp, ?_⟩
  · rw [trace_eq_cons]
    rfl
  · exact overflows_aboutHalf

end Conformance.Schema
