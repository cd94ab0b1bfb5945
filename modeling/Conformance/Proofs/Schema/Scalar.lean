import Conformance.Proofs.Outcome
import Conformance.Proofs.Schema.Contract
import Conformance.Proofs.Value.Order
import Conformance.Schema.Scalar

/-! # What scalars are asked

The checks of a scalar, read off for the records that hold the constraints: the kind first, then
either the matcher of a text, or wholeness, bounds and expected value of a number.
-/

namespace Conformance.Schema

theorem tag?_eq_some_iff {schema : Value} {kind : Kind} :
    tag? schema = some kind ↔ schema.text? = some kind.name := by
  unfold tag?
  cases schema.text? with
  | none => simp
  | some name =>
      simp only [Option.bind_some, Option.some.injEq, Kind.ofName?]
      constructor
      · intro h
        have hname := List.find?_some h
        exact (by simpa using hname : kind.name = name).symm
      · rintro rfl
        cases kind <;> rfl

theorem equal_of_texts {left right : Value} {s t : String} (hleft : left.text? = some s)
    (hright : right.text? = some t) : Value.equal left right = (s == t) := by
  have hatom : Value.atomEqual left right = (s == t) := by
    simp [Value.atomEqual, Value.number?_of_text hleft, hleft, hright]
  cases left <;> simp only [Value.text?, reduceCtorEq] at hleft
  all_goals
    rw [Value.equal]
    · exact hatom
    all_goals simp

theorem equal_of_tags {left right : Value} {kind kind' : Kind} (hleft : tag? left = some kind)
    (hright : tag? right = some kind') : Value.equal left right = decide (kind = kind') := by
  rw [equal_of_texts (tag?_eq_some_iff.mp hleft) (tag?_eq_some_iff.mp hright)]
  cases kind <;> cases kind' <;> rfl

theorem tag?_name (kind : Kind) : tag? (.str kind.name) = some kind :=
  tag?_eq_some_iff.mpr rfl

theorem isNull_of_tag {schema : Value} {kind : Kind} (h : tag? schema = some kind) :
    schema.isNull = false := by
  cases schema <;> first | rfl | exact absurd h (by simp [tag?, Value.text?])

theorem validateSimple_of_tag {value schema : Value} {kind : Kind} (h : tag? schema = some kind) :
    validateSimple value schema = decide (value.kind? = some kind) := by
  unfold validateSimple
  cases value.kind? with
  | none => simp [isNull_of_tag h]
  | some kind' => simp [equal_of_tags (tag?_name kind') h]

/-- Of a scalar whose contract holds, only the constraints for its own kind are looked at. -/
theorem validateScalar_of_tag (calls : Interpretation)
    {value scalar array object enumeration string number optional nullable : Value} {kind : Kind}
    (h : tag? scalar = some kind) :
    validateScalar calls value
        (.complexSchema scalar array object enumeration string number optional nullable) =
      if value.kind? = some kind then
        match kind with
        | .string => if string.isNull then .pure true else validateString calls value string
        | .number => if number.isNull then .pure true else validateNumber calls value number
        | .boolean => .pure true
      else .pure false := by
  have hscalar : Value.part (.complexSchema scalar array object enumeration string number optional
      nullable) "scalar" = .ok scalar := rfl
  have hstring : Value.part (.complexSchema scalar array object enumeration string number optional
      nullable) "string" = .ok string := rfl
  have hnumber : Value.part (.complexSchema scalar array object enumeration string number optional
      nullable) "number" = .ok number := rfl
  simp only [validateScalar, hscalar, hstring, hnumber, validateSimple_of_tag h,
    equal_of_tags h (tag?_name _), Outcome.bind_eq_bind, Outcome.pure_eq_pure,
    Outcome.liftM_eq_ofExcept, Outcome.ofExcept_ok, Outcome.bind_pure_left]
  by_cases hkind : value.kind? = some kind
  · cases kind <;> cases string.isNull <;> cases number.isNull <;> simp [hkind]
  · simp [hkind]

/-! ## Texts -/

theorem validateString_stringSchema (calls : Interpretation) (value matcher : Value) :
    validateString calls value (.stringSchema matcher) =
      match matcher with
      | .null => .pure true
      | .pattern p => .ofExcept (searchPattern p value)
      | _ =>
        match matcher.text? with
        | some _ => .pure (Value.equal value matcher)
        | none => callMatcher calls matcher value := rfl

theorem validateString_of_text (calls : Interpretation) (value : Value) {matcher : Value}
    {text : String} (h : matcher.text? = some text) :
    validateString calls value (.stringSchema matcher) = .pure (Value.equal value matcher) := by
  rw [validateString_stringSchema]
  cases matcher
  case str s => rfl
  case member m => simp only [h]
  all_goals cases h

theorem searchPattern_of_text {p : Pattern} {value : Value} {source text : String}
    (hsource : p.source = .text source) (htext : value.text? = some text) :
    searchPattern p value = .ok (p.node.search (text.toList.map Char.toNat).toArray) := by
  simp only [searchPattern, hsource, htext]

theorem isNull_of_number {bound : Value} {a : Value.Number} (h : bound.number? = some a) :
    bound.isNull = false := by
  cases bound <;> first | rfl | cases h

theorem outside_of_number {comparison : Value.Comparison} {subject bound : Value}
    {n a : Value.Number} (hsubject : subject.number? = some n) (hbound : bound.number? = some a) :
    outside comparison subject bound = .ok (comparison.apply Value.Number.less n a) := by
  rw [outside, isNull_of_number hbound, if_neg (by simp),
    Value.compare_of_numbers comparison hsubject hbound]

/-! ## Numbers -/

section Numbers

variable {subject value min max isInteger epsilon : Value}

theorem outsideBounds_numberSchema :
    outsideBounds subject (.numberSchema value min max isInteger epsilon) =
      (outside .below subject min).bind fun below =>
        if below then .ok true else outside .above subject max := rfl

theorem outsideBounds_eq_ok_false_iff :
    outsideBounds subject (.numberSchema value min max isInteger epsilon) = .ok false ↔
      outside .below subject min = .ok false ∧ outside .above subject max = .ok false := by
  rw [outsideBounds_numberSchema]
  cases outside .below subject min with
  | error fault => simp [Except.bind]
  | ok below => cases below <;> simp [Except.bind]

theorem admitsNumber_eq_ok_true_iff :
    admitsNumber subject (.numberSchema value min max isInteger epsilon) = .ok true ↔
      (isInteger.truthy = true → isIntegral subject = .ok true) ∧
        outside .below subject min = .ok false ∧ outside .above subject max = .ok false := by
  have hpart : Value.part (.numberSchema value min max isInteger epsilon) "is_integer" =
      .ok isInteger := rfl
  rw [← outsideBounds_eq_ok_false_iff, admitsNumber, hpart]
  cases hi : isInteger.truthy with
  | false =>
      cases outsideBounds subject (.numberSchema value min max isInteger epsilon) <;>
        simp [bind, Except.bind, pure, Except.pure, hi]
  | true =>
      rcases isIntegral subject with fault | whole
      · simp [bind, Except.bind, hi]
      · cases whole <;>
          cases outsideBounds subject (.numberSchema value min max isInteger epsilon) <;>
          simp [bind, Except.bind, pure, Except.pure, hi]

theorem validateNumber_numberSchema (calls : Interpretation) :
    validateNumber calls subject (.numberSchema value min max isInteger epsilon) =
      (Outcome.ofExcept
          (admitsNumber subject (.numberSchema value min max isInteger epsilon))).andThen
        (if value.isNull then .pure true
        else if value.kind? = some .number then
          .ofExcept (matchesLiteral subject value
            (.numberSchema value min max isInteger epsilon))
        else callMatcher calls value subject) := by
  have hpart : Value.part (.numberSchema value min max isInteger epsilon) "value" =
      .ok value := rfl
  simp only [validateNumber, hpart, Outcome.bind_eq_bind, Outcome.pure_eq_pure,
    Outcome.liftM_eq_ofExcept, Outcome.ofExcept_ok, Outcome.bind_pure_left,
    Outcome.bind_return_false]

/-- The expected value is compared exactly, or within the tolerance if it is not whole; the other
fields of the record have no part in it. -/
theorem matchesLiteral_numberSchema (literal : Value) :
    matchesLiteral subject literal (.numberSchema value min max isInteger epsilon) =
      match literal with
      | .float x =>
        if x.isInteger then .ok (Value.equal subject literal)
        else (subject.minus x).bind fun difference =>
          Value.compare .below (.float difference.abs) epsilon
      | _ => .ok (Value.equal subject literal) := by
  cases literal <;> rfl

/-- What the expected value asks of a number that the other conditions admit. -/
def MeetsExpected (calls : Interpretation) (subject value epsilon : Value) : Prop :=
  value.isNull = false →
    if value.kind? = some .number then
      matchesLiteral subject value (.numberSchema value .null .null .null epsilon) = .ok true
    else (callMatcher calls value subject).Passed

theorem passed_validateNumber {calls : Interpretation} :
    (validateNumber calls subject (.numberSchema value min max isInteger epsilon)).Passed ↔
      admitsNumber subject (.numberSchema value min max isInteger epsilon) = .ok true ∧
        MeetsExpected calls subject value epsilon := by
  rw [validateNumber_numberSchema, Outcome.passed_andThen, Outcome.passed_ofExcept]
  unfold MeetsExpected
  cases value.isNull with
  | true => simp
  | false =>
      simp only [Bool.false_eq_true, if_false, forall_const, matchesLiteral_numberSchema]
      split
      · exact Iff.rfl
      · exact Iff.rfl

end Numbers

end Conformance.Schema
