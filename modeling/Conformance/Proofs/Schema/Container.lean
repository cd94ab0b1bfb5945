import Conformance.Proofs.Schema.Step

/-! # What containers are asked

The checks of a list, a record and an enumerated value, each as the condition under which it is
passed. A record's keys are looked up among the declared names, which faults on a key that cannot
be hashed.
-/

namespace Conformance.Schema

theorem not_absent_of_items {value : Value} {items : List Value} (h : value.items? = some items) :
    value.isNull = false ∧ value.isMissing = false := by
  cases value <;> first | exact ⟨rfl, rfl⟩ | cases h

theorem admitsLength_eq_ok_true_iff {size : Nat} {length minLength maxLength : Value} :
    admitsLength size length minLength maxLength = .ok true ↔
      (length.isNull = false → Value.equal (.int size) length = true) ∧
        outside .below (.int size) minLength = .ok false ∧
        outside .above (.int size) maxLength = .ok false := by
  unfold admitsLength
  by_cases hlength : (!length.isNull && !Value.equal (.int size) length) = true
  · rw [if_pos hlength]
    simp only [Bool.and_eq_true, Bool.not_eq_true'] at hlength
    simp [pure, Except.pure, hlength]
  · rw [if_neg hlength]
    have hfits : length.isNull = false → Value.equal (.int size) length = true := by
      simpa using hlength
    rw [and_iff_right hfits]
    rcases outside .below (.int size) minLength with fault | below
    · simp [bind, Except.bind]
    · cases below <;> cases outside .above (.int size) maxLength <;>
        simp [bind, Except.bind, pure, Except.pure]

theorem admitsLength_of_answers {size : Nat} {length minLength maxLength : Value}
    {below above : Bool} (hbelow : outside .below (.int size) minLength = .ok below)
    (habove : outside .above (.int size) maxLength = .ok above) :
    admitsLength size length minLength maxLength =
      .ok ((length.isNull || Value.equal (.int size) length) && !below && !above) := by
  rw [admitsLength, hbelow, habove]
  cases length.isNull <;> cases Value.equal (.int size) length <;> cases below <;> rfl

theorem admitsArray_eq_andThen (calls : Interpretation) (value : Value) (size : Nat)
    (length minLength maxLength matcher : Value) :
    admitsArray calls value size length minLength maxLength matcher =
      (Outcome.ofExcept (admitsLength size length minLength maxLength)).andThen
        (passesMatcher calls matcher value) :=
  Outcome.bind_return_false _ _

theorem passed_checkArray {calls : Interpretation} {value array : Value} :
    (checkArray calls value array).Passed ↔
      ∃ items itemType length minLength maxLength matcher, value.items? = some items ∧
        array = .arraySchema itemType length minLength maxLength matcher ∧
        admitsLength items.length length minLength maxLength = .ok true ∧
        (passesMatcher calls matcher value).Passed := by
  unfold checkArray
  cases value.items? with
  | none => simp
  | some items =>
      cases array
      case arraySchema itemType length minLength maxLength matcher =>
        simp only [admitsArray_eq_andThen, Outcome.passed_andThen, Outcome.passed_ofExcept]
        constructor
        · exact fun h => ⟨items, itemType, length, minLength, maxLength, matcher, rfl, rfl, h⟩
        · rintro ⟨_, _, _, _, _, _, hitems, harray, h⟩
          cases hitems
          cases harray
          exact h
      all_goals simp

/-! ## Records -/

theorem not_absent_of_entries {value : Value} {entries : Value.Entries}
    (h : value.entries? = some entries) : value.isNull = false ∧ value.isMissing = false := by
  cases value <;> first | exact ⟨rfl, rfl⟩ | cases h

theorem contains_of_mapping {members : Value} {entries : Value.Entries}
    (h : entriesOf? members = some entries) (key : Value) :
    members.contains key = (Value.lookup entries key).map (·.isSome) := by
  cases members <;> simp only [entriesOf?, Option.some.injEq, reduceCtorEq] at h
  all_goals
    subst h
    rfl

theorem contains_eq_ok_true_iff {members key : Value} {entries : Value.Entries}
    (h : entriesOf? members = some entries) :
    members.contains key = .ok true ↔
      Value.unhashable? key = none ∧ (Value.find? entries key).isSome = true := by
  rw [contains_of_mapping h, Value.lookup]
  cases Value.unhashable? key <;> simp [Except.map]

theorem declared_eq_ok_true_iff {members : Value} {entries : Value.Entries} :
    declared members entries = .ok true ↔ ∀ e ∈ entries, members.contains e.1 = .ok true := by
  induction entries with
  | nil => simp [declared]
  | cons e entries ih =>
      obtain ⟨name, value⟩ := e
      rw [declared]
      rcases hname : members.contains name with fault | found
      · simp [bind, Except.bind, hname]
      · cases found <;> simp [bind, Except.bind, pure, Except.pure, ih, hname]

theorem admitsObject_eq_andThen (calls : Interpretation) (value : Value) (entries : Value.Entries)
    (members allowExtraMembers matcher : Value) :
    admitsObject calls value entries members allowExtraMembers matcher =
      (Outcome.ofExcept
          (if allowExtraMembers.truthy then .ok true else declared members entries)).andThen
        (passesMatcher calls matcher value) := by
  unfold admitsObject
  cases allowExtraMembers.truthy with
  | true => rfl
  | false => exact Outcome.bind_return_false _ _

theorem passed_admitsObject {calls : Interpretation} {value : Value} {entries : Value.Entries}
    {members allowExtraMembers matcher : Value} :
    (admitsObject calls value entries members allowExtraMembers matcher).Passed ↔
      (allowExtraMembers.truthy = false → declared members entries = .ok true) ∧
        (passesMatcher calls matcher value).Passed := by
  rw [admitsObject_eq_andThen, Outcome.passed_andThen, Outcome.passed_ofExcept]
  cases allowExtraMembers.truthy <;> simp

theorem passed_checkObject {calls : Interpretation} {value object : Value} :
    (checkObject calls value object).Passed ↔
      ∃ entries members allowExtraMembers matcher, value.entries? = some entries ∧
        object = .objectSchema members allowExtraMembers matcher ∧
        (allowExtraMembers.truthy = false → declared members entries = .ok true) ∧
        (passesMatcher calls matcher value).Passed ∧ (entriesOf? members).isSome = true := by
  unfold checkObject
  cases value.entries? with
  | none => simp
  | some entries =>
      cases object
      case objectSchema members allowExtraMembers matcher =>
        cases hmembers : entriesOf? members <;>
          simp [Outcome.passed_andThen, passed_admitsObject, enumerable, hmembers, and_assoc]
      all_goals simp

theorem validateEnum_eq_ok_true_iff {value options : Value} :
    validateEnum value options = .ok true ↔
      ∃ items, options.iterate = .ok items ∧
        ∃ option ∈ items, strictlyEqual value option = true := by
  unfold validateEnum
  rcases options.iterate with fault | items
  · simp [bind, Except.bind]
  · simp [bind, Except.bind, pure, Except.pure]

end Conformance.Schema
