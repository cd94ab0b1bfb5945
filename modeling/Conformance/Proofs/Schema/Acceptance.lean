import Conformance.Proofs.Schema.Container
import Conformance.Proofs.Schema.Scalar

/-! # What is accepted

The conditions under which a structured schema accepts a value, one level at a time: first the
contract, then whether nothing may stand for the value, then what the represented aggregation asks.
-/

namespace Conformance.Schema

section Levels

variable {calls : Interpretation} {value : Value}

theorem passed_validateArray {itemType length minLength maxLength matcher : Value} :
    (validateArray calls value
        (.arraySchema itemType length minLength maxLength matcher)).Passed ↔
      ∃ items, value.items? = some items ∧
        admitsLength items.length length minLength maxLength = .ok true ∧
        (passesMatcher calls matcher value).Passed ∧
        ∀ item ∈ items, (validate calls item itemType).Passed := by
  rw [validateArray_eq_andThen, Outcome.passed_andThen, Outcome.passed_all, passed_checkArray]
  constructor
  · rintro ⟨⟨items, _, _, _, _, _, hitems, harray, hlength, hmatcher⟩, hall⟩
    cases harray
    refine ⟨items, hitems, hlength, hmatcher, fun item hitem => ?_⟩
    exact hall (item, itemType) (by simp [itemTypes, hitems, hitem])
  · rintro ⟨items, hitems, hlength, hmatcher, hall⟩
    refine ⟨⟨items, _, _, _, _, _, hitems, rfl, hlength, hmatcher⟩, ?_⟩
    simpa [itemTypes, hitems] using hall

theorem passed_validateObject {members allowExtraMembers matcher : Value} :
    (validateObject calls value (.objectSchema members allowExtraMembers matcher)).Passed ↔
      ∃ entries known, value.entries? = some entries ∧ entriesOf? members = some known ∧
        (allowExtraMembers.truthy = false → declared members entries = .ok true) ∧
        (passesMatcher calls matcher value).Passed ∧
        ∀ e ∈ known, (validate calls (memberValue entries e.1) e.2).Passed := by
  rw [validateObject_eq_andThen, Outcome.passed_andThen, Outcome.passed_all, passed_checkObject]
  constructor
  · rintro ⟨⟨entries, _, _, _, hentries, hobject, hdeclared, hmatcher, hmembers⟩, hall⟩
    cases hobject
    obtain ⟨known, hknown⟩ := Option.isSome_iff_exists.mp hmembers
    refine ⟨entries, known, hentries, hknown, hdeclared, hmatcher, fun e he => ?_⟩
    rw [hentries] at hall
    refine hall (memberValue entries e.1, e.2) (List.mem_map.mpr ⟨e, ?_, rfl⟩)
    simpa [declarations, hknown] using he
  · rintro ⟨entries, known, hentries, hknown, hdeclared, hmatcher, hall⟩
    refine ⟨⟨entries, _, _, _, hentries, rfl, hdeclared, hmatcher, by simp [hknown]⟩, ?_⟩
    rw [hentries]
    intro q hq
    obtain ⟨e, he, rfl⟩ := List.mem_map.mp hq
    exact hall e (by simpa [declarations, hknown] using he)

theorem arraySchema_of_passed {array : Value} (h : (validateArray calls value array).Passed) :
    ∃ itemType length minLength maxLength matcher,
      array = .arraySchema itemType length minLength maxLength matcher := by
  rw [validateArray_eq_andThen, Outcome.passed_andThen, passed_checkArray] at h
  obtain ⟨⟨_, itemType, length, minLength, maxLength, matcher, -, harray, -⟩, -⟩ := h
  exact ⟨itemType, length, minLength, maxLength, matcher, harray⟩

theorem objectSchema_of_passed {object : Value}
    (h : (validateObject calls value object).Passed) :
    ∃ members allowExtraMembers matcher,
      object = .objectSchema members allowExtraMembers matcher := by
  rw [validateObject_eq_andThen, Outcome.passed_andThen, passed_checkObject] at h
  obtain ⟨⟨_, members, allowExtraMembers, matcher, -, hobject, -⟩, -⟩ := h
  exact ⟨members, allowExtraMembers, matcher, hobject⟩

/-- Every key of a record without extra members is hashable and equals a declared name. -/
theorem declared_iff_names {members : Value} {known entries : Value.Entries}
    (h : entriesOf? members = some known) :
    declared members entries = .ok true ↔
      ∀ e ∈ entries, Value.unhashable? e.1 = none ∧ ∃ d ∈ known, Value.equal e.1 d.1 = true := by
  rw [declared_eq_ok_true_iff]
  simp only [contains_eq_ok_true_iff h, Value.find?, Option.isSome_map, List.find?_isSome]

/-! ## Scalars -/

def Constraints (calls : Interpretation) (value string number : Value) : Kind → Prop
  | .string => string.isNull = false → (validateString calls value string).Passed
  | .number => number.isNull = false → (validateNumber calls value number).Passed
  | .boolean => True

theorem passed_validateScalar
    {scalar array object enumeration string number optional nullable : Value} {kind : Kind}
    (htag : tag? scalar = some kind) :
    (validateScalar calls value
        (.complexSchema scalar array object enumeration string number optional
          nullable)).Passed ↔
      value.kind? = some kind ∧ Constraints calls value string number kind := by
  rw [validateScalar_of_tag calls htag]
  by_cases hkind : value.kind? = some kind
  · rw [if_pos hkind]
    cases kind with
    | string => cases hnull : string.isNull <;> simp [Constraints, hkind, hnull]
    | number => cases hnull : number.isNull <;> simp [Constraints, hkind, hnull]
    | boolean => simp [Constraints, hkind]
  · simp [hkind]

variable {scalar array object enumeration string number optional nullable : Value}

/-- What a schema that represents an aggregation asks of a value that is there. -/
def Represents (calls : Interpretation)
    (value scalar array object enumeration string number : Value) : Aggregation → Prop
  | .array => (validateArray calls value array).Passed
  | .object => (validateObject calls value object).Passed
  | .enumeration => validateEnum value enumeration = .ok true
  | .scalar => ∃ kind, tag? scalar = some kind ∧ value.kind? = some kind ∧
      Constraints calls value string number kind

/-- What is represented depends on each field only through what the field asks of the value. -/
theorem Represents.imp {array' object' enumeration' string' number' : Value} {kind : Aggregation}
    (h : Represents calls value scalar array object enumeration string number kind)
    (harray : (validateArray calls value array).Passed →
      (validateArray calls value array').Passed)
    (hobject : (validateObject calls value object).Passed →
      (validateObject calls value object').Passed)
    (henum : validateEnum value enumeration = .ok true →
      validateEnum value enumeration' = .ok true)
    (hconstraints : ∀ tag, value.kind? = some tag → Constraints calls value string number tag →
      Constraints calls value string' number' tag) :
    Represents calls value scalar array' object' enumeration' string' number' kind := by
  cases kind with
  | array => exact harray h
  | object => exact hobject h
  | enumeration => exact henum h
  | scalar =>
      obtain ⟨tag, htag, hkind, hmet⟩ := h
      exact ⟨tag, htag, hkind, hconstraints tag hkind hmet⟩

/-- Nothing and an absent member are let through by their own flags; all else is looked at. -/
def Admitted (value optional nullable : Value) (conforms : Prop) : Prop :=
  if value.isNull then nullable.isTrue = true
  else if value.isMissing then optional.isTrue = true
  else conforms

theorem Admitted.imp {optional' nullable' : Value} {conforms conforms' : Prop}
    (hnullable : nullable.isTrue = true → nullable'.isTrue = true)
    (hoptional : optional.isTrue = true → optional'.isTrue = true)
    (hconforms : conforms → conforms') (h : Admitted value optional nullable conforms) :
    Admitted value optional' nullable' conforms' := by
  unfold Admitted at h ⊢
  cases hnull : value.isNull with
  | true =>
      rw [hnull, if_pos rfl] at h
      simpa using hnullable h
  | false =>
      cases hmissing : value.isMissing with
      | true =>
          rw [hnull, hmissing, if_neg (by simp), if_pos rfl] at h
          simpa using hoptional h
      | false =>
          rw [hnull, hmissing, if_neg (by simp), if_neg (by simp)] at h
          simpa using hconforms h

theorem passed_validate_complex :
    (validate calls value
        (.complexSchema scalar array object enumeration string number optional
          nullable)).Passed ↔
      ∃ kind,
        aggregation
            (.complexSchema scalar array object enumeration string number optional nullable) =
          .ok kind ∧
        Admitted value optional nullable
          (Represents calls value scalar array object enumeration string number kind) := by
  simp only [validate]
  cases hkind : aggregation
      (.complexSchema scalar array object enumeration string number optional nullable) with
  | error fault =>
      obtain ⟨other, hfault⟩ := exists_inferAggregation_error hkind
      simp [Outcome.Passed, Outcome.result_bind_of_error hfault]
  | ok kind =>
      simp only [inferAggregation_of_ok hkind, Outcome.bind_eq_bind, Outcome.bind_pure_left,
        Except.ok.injEq, exists_eq_left']
      unfold Admitted
      by_cases hnull : value.isNull
      · simp [hnull]
      by_cases hmissing : value.isMissing
      · simp [hnull, hmissing]
      simp only [hnull, hmissing, Bool.false_eq_true, if_false]
      cases kind with
      | array => exact Iff.rfl
      | object => exact Iff.rfl
      | enumeration => exact Iff.rfl
      | scalar =>
          obtain ⟨-, tag, htag, -⟩ := aggregation_eq_ok_iff.mp hkind
          simp only [passed_validateScalar htag, Represents, htag, Option.some.injEq,
            exists_eq_left']

/-- A schema that accepts a value satisfies the contract, or it is the tag of the value's kind. -/
theorem contract_or_tag_of_passed {schema : Value} (h : (validate calls value schema).Passed) :
    (∃ kind, aggregation schema = .ok kind) ∨
      ∃ kind, tag? schema = some kind ∧ value.kind? = some kind := by
  cases schema
  case complexSchema =>
    obtain ⟨kind, hkind, -⟩ := passed_validate_complex.mp h
    exact .inl ⟨kind, hkind⟩
  all_goals
    simp only [validate] at h
    split at h
    · next hsimple =>
        obtain ⟨kind, htag⟩ := Option.isSome_iff_exists.mp hsimple
        exact .inr ⟨kind, htag, by simpa [validateSimple_of_tag htag] using h⟩
    · obtain ⟨kind, hkind, -⟩ := Outcome.passed_bind.mp h
      exact .inl ⟨kind, inferAggregation_eq_ok_iff.mp hkind⟩

end Levels

end Conformance.Schema
