import Conformance.Predicate
import Conformance.Proofs.Schema.Acceptance
import Conformance.Proofs.Value.Equality
import Conformance.Schema.Record
import Mathlib.Logic.Relation

/-! # Relaxing a schema

A schema is relaxed by edits, at any depth and in any order: a flag that lets more through, a bound
moved outwards or dropped, a matcher or an expected value dropped, an option added, members put in
another order or joined by an optional one. No edit turns away a value that was accepted.
-/

namespace Conformance.Schema

open Value (Comparison Number Keyed)

/-- The second bound is passed by no more numbers than the first. -/
def looser (comparison : Comparison) (a b : Number) : Prop :=
  match comparison with
  | .below => b.AtMost a
  | .above => a.AtMost b

/-- A bound is dropped, or moved outwards as a number. -/
inductive Loosened (comparison : Comparison) : Value → Value → Prop
  | dropped {bound : Value} : Loosened comparison bound .null
  | moved {bound bound' : Value} {a b : Number} (h : bound.number? = some a)
      (h' : bound'.number? = some b) (hlooser : looser comparison a b) :
      Loosened comparison bound bound'

inductive StringEdit : Value → Value → Prop
  | dropMatcher {matcher : Value} : StringEdit (.stringSchema matcher) (.stringSchema .null)

inductive NumberEdit : Value → Value → Prop
  | fractions {value min max isInteger isInteger' epsilon : Value}
      (h : isInteger'.truthy = false) :
      NumberEdit (.numberSchema value min max isInteger epsilon)
        (.numberSchema value min max isInteger' epsilon)
  | min {value min min' max isInteger epsilon : Value} (h : Loosened .below min min') :
      NumberEdit (.numberSchema value min max isInteger epsilon)
        (.numberSchema value min' max isInteger epsilon)
  | max {value min max max' isInteger epsilon : Value} (h : Loosened .above max max') :
      NumberEdit (.numberSchema value min max isInteger epsilon)
        (.numberSchema value min max' isInteger epsilon)
  | epsilon {value min max isInteger epsilon epsilon' : Value} {a b : Number}
      (h : epsilon.number? = some a) (h' : epsilon'.number? = some b) (hlarger : a.AtMost b) :
      NumberEdit (.numberSchema value min max isInteger epsilon)
        (.numberSchema value min max isInteger epsilon')
  | dropValue {value min max isInteger epsilon : Value} :
      NumberEdit (.numberSchema value min max isInteger epsilon)
        (.numberSchema .null min max isInteger epsilon)

inductive ArrayEdit : Value → Value → Prop
  | dropLength {itemType length minLength maxLength matcher : Value} :
      ArrayEdit (.arraySchema itemType length minLength maxLength matcher)
        (.arraySchema itemType .null minLength maxLength matcher)
  | minLength {itemType length minLength minLength' maxLength matcher : Value}
      (h : Loosened .below minLength minLength') :
      ArrayEdit (.arraySchema itemType length minLength maxLength matcher)
        (.arraySchema itemType length minLength' maxLength matcher)
  | maxLength {itemType length minLength maxLength maxLength' matcher : Value}
      (h : Loosened .above maxLength maxLength') :
      ArrayEdit (.arraySchema itemType length minLength maxLength matcher)
        (.arraySchema itemType length minLength maxLength' matcher)
  | dropMatcher {itemType length minLength maxLength matcher : Value} :
      ArrayEdit (.arraySchema itemType length minLength maxLength matcher)
        (.arraySchema itemType length minLength maxLength .null)

/-- A structured schema that satisfies the contract and lets an absent member pass. -/
def OptionalMember : Value → Prop
  | part@(.complexSchema _ _ _ _ _ _ optional _) =>
    optional.isTrue = true ∧ ∃ kind, aggregation part = .ok kind
  | _ => False

inductive ObjectEdit : Value → Value → Prop
  | allowExtra {members allowExtraMembers allowExtraMembers' matcher : Value}
      (h : allowExtraMembers'.truthy = true) :
      ObjectEdit (.objectSchema members allowExtraMembers matcher)
        (.objectSchema members allowExtraMembers' matcher)
  | dropMatcher {members allowExtraMembers matcher : Value} :
      ObjectEdit (.objectSchema members allowExtraMembers matcher)
        (.objectSchema members allowExtraMembers .null)
  | reorder {members members' allowExtraMembers matcher : Value} {known known' : Value.Entries}
      (h : entriesOf? members = some known) (h' : entriesOf? members' = some known')
      (hperm : known.Perm known') :
      ObjectEdit (.objectSchema members allowExtraMembers matcher)
        (.objectSchema members' allowExtraMembers matcher)
  | addMember {members members' allowExtraMembers matcher name part : Value}
      {known : Value.Entries} (hstrict : allowExtraMembers.truthy = false)
      (h : entriesOf? members = some known)
      (h' : entriesOf? members' = some (known ++ [(name, part)]))
      (hkeyed : Keyed (known ++ [(name, part)])) (hpart : OptionalMember part) :
      ObjectEdit (.objectSchema members allowExtraMembers matcher)
        (.objectSchema members' allowExtraMembers matcher)

/-! ## Edits of a schema -/

/-- One edit that relaxes a schema, at its root or in a schema nested in it. -/
inductive Edit : Value → Value → Prop
  | nullable {scalar array object enumeration string number optional nullable nullable' : Value}
      (h : nullable'.isTrue = true) :
      Edit (.complexSchema scalar array object enumeration string number optional nullable)
        (.complexSchema scalar array object enumeration string number optional nullable')
  | optional {scalar array object enumeration string number optional optional' nullable : Value}
      (h : optional'.isTrue = true) :
      Edit (.complexSchema scalar array object enumeration string number optional nullable)
        (.complexSchema scalar array object enumeration string number optional' nullable)
  | string {scalar array object enumeration string string' number optional nullable : Value}
      (h : StringEdit string string') :
      Edit (.complexSchema scalar array object enumeration string number optional nullable)
        (.complexSchema scalar array object enumeration string' number optional nullable)
  | number {scalar array object enumeration string number number' optional nullable : Value}
      (h : NumberEdit number number') :
      Edit (.complexSchema scalar array object enumeration string number optional nullable)
        (.complexSchema scalar array object enumeration string number' optional nullable)
  | array {scalar array array' object enumeration string number optional nullable : Value}
      (h : ArrayEdit array array') :
      Edit (.complexSchema scalar array object enumeration string number optional nullable)
        (.complexSchema scalar array' object enumeration string number optional nullable)
  | object {scalar array object object' enumeration string number optional nullable : Value}
      (h : ObjectEdit object object') :
      Edit (.complexSchema scalar array object enumeration string number optional nullable)
        (.complexSchema scalar array object' enumeration string number optional nullable)
  | options {scalar array object enumeration enumeration' string number optional nullable : Value}
      {options options' : List Value} (h : enumeration.iterate = .ok options)
      (h' : enumeration'.iterate = .ok options') (hsubset : options ⊆ options') :
      Edit (.complexSchema scalar array object enumeration string number optional nullable)
        (.complexSchema scalar array object enumeration' string number optional nullable)
  | item {scalar object enumeration string number optional nullable : Value}
      {itemType itemType' length minLength maxLength matcher : Value}
      (h : Edit itemType itemType') :
      Edit
        (.complexSchema scalar (.arraySchema itemType length minLength maxLength matcher) object
          enumeration string number optional nullable)
        (.complexSchema scalar (.arraySchema itemType' length minLength maxLength matcher) object
          enumeration string number optional nullable)
  | member {scalar array enumeration string number optional nullable : Value}
      {members members' allowExtraMembers matcher name part part' : Value}
      {before after : Value.Entries}
      (hmembers : entriesOf? members = some (before ++ (name, part) :: after))
      (hmembers' : entriesOf? members' = some (before ++ (name, part') :: after))
      (h : Edit part part') :
      Edit
        (.complexSchema scalar array (.objectSchema members allowExtraMembers matcher)
          enumeration string number optional nullable)
        (.complexSchema scalar array (.objectSchema members' allowExtraMembers matcher)
          enumeration string number optional nullable)

def Relaxed : Value → Value → Prop := Relation.ReflTransGen Edit

theorem apply_of_looser {comparison : Comparison} {n a b : Number}
    (hlooser : looser comparison a b) (h : comparison.apply Number.less n b = true) :
    comparison.apply Number.less n a = true := by
  cases comparison with
  | below => exact Number.AtMost.less_trans h hlooser
  | above => exact Number.AtMost.less_of_less hlooser h

/-- A number inside a bound is inside a looser one. -/
theorem outside_of_loosened {comparison : Comparison} {subject bound bound' : Value} {n : Number}
    (hsubject : subject.number? = some n) (h : Loosened comparison bound bound')
    (hinside : outside comparison subject bound = .ok false) :
    outside comparison subject bound' = .ok false := by
  cases h with
  | dropped => rfl
  | moved hbound hbound' hlooser =>
      rw [outside_of_number hsubject hbound] at hinside
      rw [outside_of_number hsubject hbound', Except.ok.injEq, Bool.eq_false_iff]
      intro hbroken
      rw [apply_of_looser hlooser hbroken] at hinside
      cases hinside

/-! ## Edits of the parts let through what passed -/

theorem passesMatcher_null (calls : Interpretation) (value : Value) :
    (passesMatcher calls .null value).Passed := rfl

theorem passed_of_arrayEdit {calls : Interpretation} {value array array' : Value}
    (h : ArrayEdit array array') (hpassed : (validateArray calls value array).Passed) :
    (validateArray calls value array').Passed := by
  cases h with
  | dropLength =>
      obtain ⟨items, hitems, hlength, hrest⟩ := passed_validateArray.mp hpassed
      refine passed_validateArray.mpr ⟨items, hitems, ?_, hrest⟩
      rw [admitsLength_eq_ok_true_iff] at hlength ⊢
      exact ⟨fun h => absurd h (by decide), hlength.2⟩
  | minLength h =>
      obtain ⟨items, hitems, hlength, hrest⟩ := passed_validateArray.mp hpassed
      refine passed_validateArray.mpr ⟨items, hitems, ?_, hrest⟩
      rw [admitsLength_eq_ok_true_iff] at hlength ⊢
      exact ⟨hlength.1, outside_of_loosened rfl h hlength.2.1, hlength.2.2⟩
  | maxLength h =>
      obtain ⟨items, hitems, hlength, hrest⟩ := passed_validateArray.mp hpassed
      refine passed_validateArray.mpr ⟨items, hitems, ?_, hrest⟩
      rw [admitsLength_eq_ok_true_iff] at hlength ⊢
      exact ⟨hlength.1, hlength.2.1, outside_of_loosened rfl h hlength.2.2⟩
  | dropMatcher =>
      obtain ⟨items, hitems, hlength, -, hall⟩ := passed_validateArray.mp hpassed
      exact passed_validateArray.mpr
        ⟨items, hitems, hlength, passesMatcher_null calls value, hall⟩

theorem passed_of_stringEdit {calls : Interpretation} {value string string' : Value}
    (h : StringEdit string string') : (validateString calls value string').Passed := by
  cases h with
  | dropMatcher => rfl

/-- A difference below a tolerance is below a larger one. -/
theorem meetsExpected_of_larger {calls : Interpretation} {subject value epsilon epsilon' : Value}
    {a b : Number} (h : epsilon.number? = some a) (h' : epsilon'.number? = some b)
    (hlarger : a.AtMost b) (hmeets : MeetsExpected calls subject value epsilon) :
    MeetsExpected calls subject value epsilon' := by
  intro hnull
  have hmet := hmeets hnull
  by_cases hkind : value.kind? = some .number
  · rw [if_pos hkind, matchesLiteral_numberSchema] at hmet ⊢
    cases value
    case float x =>
      cases hwhole : x.isInteger with
      | true => simpa [hwhole] using hmet
      | false =>
          simp only [hwhole, Bool.false_eq_true, if_false] at hmet ⊢
          rcases hdifference : subject.minus x with fault | difference
          · simp [hdifference, Except.bind] at hmet
          · have hnumber : (Value.float difference.abs).number? = some (.float difference.abs) :=
              rfl
            simp only [hdifference, Except.bind, Value.compare_of_numbers .below hnumber h,
              Value.compare_of_numbers .below hnumber h', Except.ok.injEq] at hmet ⊢
            exact Number.AtMost.less_trans hmet hlarger
    all_goals exact hmet
  · rw [if_neg hkind] at hmet ⊢
    exact hmet

theorem passed_of_numberEdit {calls : Interpretation} {value number number' : Value}
    (hkind : value.kind? = some .number) (h : NumberEdit number number')
    (hpassed : (validateNumber calls value number).Passed) :
    (validateNumber calls value number').Passed := by
  obtain ⟨n, hn⟩ := Value.number?_of_kind hkind
  cases h with
  | fractions h =>
      obtain ⟨hadmits, hexpected⟩ := passed_validateNumber.mp hpassed
      refine passed_validateNumber.mpr ⟨?_, hexpected⟩
      rw [admitsNumber_eq_ok_true_iff] at hadmits ⊢
      exact ⟨fun htruthy => absurd (htruthy.symm.trans h) (by simp), hadmits.2⟩
  | min h =>
      obtain ⟨hadmits, hexpected⟩ := passed_validateNumber.mp hpassed
      refine passed_validateNumber.mpr ⟨?_, hexpected⟩
      rw [admitsNumber_eq_ok_true_iff] at hadmits ⊢
      exact ⟨hadmits.1, outside_of_loosened hn h hadmits.2.1, hadmits.2.2⟩
  | max h =>
      obtain ⟨hadmits, hexpected⟩ := passed_validateNumber.mp hpassed
      refine passed_validateNumber.mpr ⟨?_, hexpected⟩
      rw [admitsNumber_eq_ok_true_iff] at hadmits ⊢
      exact ⟨hadmits.1, hadmits.2.1, outside_of_loosened hn h hadmits.2.2⟩
  | epsilon h h' hlarger =>
      obtain ⟨hadmits, hexpected⟩ := passed_validateNumber.mp hpassed
      refine passed_validateNumber.mpr ⟨?_, meetsExpected_of_larger h h' hlarger hexpected⟩
      rw [admitsNumber_eq_ok_true_iff] at hadmits ⊢
      exact hadmits
  | dropValue =>
      obtain ⟨hadmits, -⟩ := passed_validateNumber.mp hpassed
      refine passed_validateNumber.mpr ⟨?_, fun hnull => absurd hnull (by decide)⟩
      rw [admitsNumber_eq_ok_true_iff] at hadmits ⊢
      exact hadmits

/-- An absent member passes exactly where it may be absent. -/
theorem passed_missing_iff (calls : Interpretation) {part : Value} :
    (validate calls .missing part).Passed ↔ OptionalMember part := by
  constructor
  · intro h
    rcases contract_or_tag_of_passed h with ⟨kind, hkind⟩ | ⟨kind, -, hvalue⟩
    · obtain ⟨_, _, _, _, _, _, _, _, rfl⟩ := complex_of_aggregation_eq_ok hkind
      obtain ⟨_, -, hadmitted⟩ := passed_validate_complex.mp h
      exact ⟨by simpa [Admitted, Value.isNull, Value.isMissing] using hadmitted, kind, hkind⟩
    · cases hvalue
  · intro h
    cases part <;> first | exact h.elim | skip
    obtain ⟨hoptional, kind, hkind⟩ := h
    refine passed_validate_complex.mpr ⟨kind, hkind, ?_⟩
    simpa [Admitted, Value.isNull, Value.isMissing] using hoptional

/-- A record all of whose keys are declared has no value for a name that is new. -/
theorem memberValue_of_new {entries known : Value.Entries} {name part : Value}
    (hdeclared : ∀ e ∈ entries, Value.unhashable? e.1 = none ∧
      ∃ d ∈ known, Value.equal e.1 d.1 = true)
    (hkeyed : Keyed (known ++ [(name, part)])) : memberValue entries name = .missing := by
  obtain ⟨hhashable, hdistinct⟩ := hkeyed
  have hname : Value.unhashable? name = none := hhashable (name, part) (by simp)
  have hnone : entries.find? (fun e => Value.equal name e.1) = none := by
    rw [List.find?_eq_none]
    intro e he hequal
    obtain ⟨hkey, d, hd, hsame⟩ := hdeclared e he
    have hold : Value.unhashable? d.1 = none := hhashable d (List.mem_append_left _ hd)
    have hnew : Value.equal d.1 name = false :=
      (List.pairwise_append.mp hdistinct).2.2 d hd (name, part) (by simp)
    have hclash := Value.equal_symm hname hold (Value.equal_trans hname hkey hequal hsame)
    exact absurd (hclash.symm.trans hnew) (by simp)
  simp [memberValue, Value.find?, hnone]

theorem passed_of_objectEdit {calls : Interpretation} {value object object' : Value}
    (h : ObjectEdit object object') (hpassed : (validateObject calls value object).Passed) :
    (validateObject calls value object').Passed := by
  cases h with
  | allowExtra h =>
      obtain ⟨entries, known, hentries, hknown, -, hrest⟩ := passed_validateObject.mp hpassed
      refine passed_validateObject.mpr ⟨entries, known, hentries, hknown, ?_, hrest⟩
      intro hstrict
      exact absurd (h.symm.trans hstrict) (by simp)
  | dropMatcher =>
      obtain ⟨entries, known, hentries, hknown, hdeclared, -, hall⟩ :=
        passed_validateObject.mp hpassed
      exact passed_validateObject.mpr
        ⟨entries, known, hentries, hknown, hdeclared, passesMatcher_null calls value, hall⟩
  | reorder h h' hperm =>
      obtain ⟨entries, known, hentries, hknown, hdeclared, hmatcher, hall⟩ :=
        passed_validateObject.mp hpassed
      cases h.symm.trans hknown
      refine passed_validateObject.mpr ⟨entries, _, hentries, h', ?_, hmatcher, ?_⟩
      · intro hstrict
        have hnames := (declared_iff_names h).mp (hdeclared hstrict)
        refine (declared_iff_names h').mpr fun e he => ?_
        obtain ⟨hhashable, d, hd, hsame⟩ := hnames e he
        exact ⟨hhashable, d, hperm.mem_iff.mp hd, hsame⟩
      · intro e he
        exact hall e (hperm.mem_iff.mpr he)
  | addMember hstrict h h' hkeyed hpart =>
      obtain ⟨entries, known, hentries, hknown, hdeclared, hmatcher, hall⟩ :=
        passed_validateObject.mp hpassed
      cases h.symm.trans hknown
      have hnames := (declared_iff_names h).mp (hdeclared hstrict)
      refine passed_validateObject.mpr ⟨entries, _, hentries, h', ?_, hmatcher, ?_⟩
      · intro _
        refine (declared_iff_names h').mpr fun e he => ?_
        obtain ⟨hhashable, d, hd, hsame⟩ := hnames e he
        exact ⟨hhashable, d, List.mem_append_left _ hd, hsame⟩
      · intro e he
        rcases List.mem_append.mp he with hold | hnew
        · exact hall e hold
        · cases List.mem_singleton.mp hnew
          rw [memberValue_of_new hnames hkeyed]
          exact (passed_missing_iff calls).mpr hpart

/-- Items that pass under two schemas alike. -/
theorem passed_of_item {calls : Interpretation} {value : Value}
    {itemType itemType' length minLength maxLength matcher : Value}
    (hitem : ∀ {item}, (validate calls item itemType).Passed →
      (validate calls item itemType').Passed)
    (hpassed : (validateArray calls value
      (.arraySchema itemType length minLength maxLength matcher)).Passed) :
    (validateArray calls value
      (.arraySchema itemType' length minLength maxLength matcher)).Passed := by
  obtain ⟨items, hitems, hlength, hmatcher, hall⟩ := passed_validateArray.mp hpassed
  refine passed_validateArray.mpr ⟨items, hitems, hlength, hmatcher, ?_⟩
  intro item hmem
  exact hitem (hall item hmem)

/-- Members that differ in the schema of one name, which the value under it passes in both. -/
theorem passed_of_member {calls : Interpretation} {value : Value}
    {members members' allowExtraMembers matcher name part part' : Value}
    {before after : Value.Entries}
    (h : entriesOf? members = some (before ++ (name, part) :: after))
    (h' : entriesOf? members' = some (before ++ (name, part') :: after))
    (hpart : ∀ {member}, (validate calls member part).Passed →
      (validate calls member part').Passed)
    (hpassed :
      (validateObject calls value (.objectSchema members allowExtraMembers matcher)).Passed) :
    (validateObject calls value (.objectSchema members' allowExtraMembers matcher)).Passed := by
  obtain ⟨entries, known, hentries, hknown, hdeclared, hmatcher, hall⟩ :=
    passed_validateObject.mp hpassed
  cases h.symm.trans hknown
  refine passed_validateObject.mpr ⟨entries, _, hentries, h', ?_, hmatcher, ?_⟩
  · intro hstrict
    have hnames := (declared_iff_names h).mp (hdeclared hstrict)
    refine (declared_iff_names h').mpr fun e he => ?_
    obtain ⟨hhashable, d, hd, hsame⟩ := hnames e he
    refine ⟨hhashable, ?_⟩
    rcases List.mem_append.mp hd with hbefore | hrest
    · exact ⟨d, List.mem_append_left _ hbefore, hsame⟩
    · rcases List.mem_cons.mp hrest with rfl | hafter
      · exact ⟨(name, part'), by simp, hsame⟩
      · exact ⟨d, by simp [hafter], hsame⟩
  · intro e he
    rcases List.mem_append.mp he with hbefore | hrest
    · exact hall e (List.mem_append_left _ hbefore)
    · rcases List.mem_cons.mp hrest with rfl | hafter
      · exact hpart (hall (name, part) (by simp))
      · exact hall e (by simp [hafter])

/-! ## Relaxed schemas -/

theorem StringEdit.isNull {string string' : Value} (h : StringEdit string string') :
    string'.isNull = string.isNull := by
  cases h
  rfl

theorem StringEdit.applies {string string' : Value} (h : StringEdit string string') :
    stringConstraint string = .ok () → stringConstraint string' = .ok () := by
  cases h
  exact fun _ => rfl

theorem NumberEdit.isNull {number number' : Value} (h : NumberEdit number number') :
    number'.isNull = number.isNull := by
  cases h <;> rfl

theorem NumberEdit.applies {number number' : Value} (h : NumberEdit number number') :
    numberConstraint number = .ok () → numberConstraint number' = .ok () := by
  cases h with
  | dropValue => exact fun _ => rfl
  | fractions => exact id
  | min => exact id
  | max => exact id
  | epsilon => exact id

theorem ArrayEdit.isNull {array array' : Value} (h : ArrayEdit array array') :
    array'.isNull = array.isNull := by
  cases h <;> rfl

theorem ObjectEdit.isNull {object object' : Value} (h : ObjectEdit object object') :
    object'.isNull = object.isNull := by
  cases h <;> rfl

theorem not_null_of_iterate {options : Value} {items : List Value}
    (h : options.iterate = .ok items) : options.isNull = false := by
  cases options <;> first | rfl | cases h

theorem constraints_of_stringEdit {calls : Interpretation} {value string string' number : Value}
    {kind : Kind} (h : StringEdit string string')
    (hconstraints : Constraints calls value string number kind) :
    Constraints calls value string' number kind := by
  cases kind with
  | string => exact fun _ => passed_of_stringEdit h
  | number => exact hconstraints
  | boolean => exact hconstraints

theorem constraints_of_numberEdit {calls : Interpretation} {value string number number' : Value}
    {kind : Kind} (h : NumberEdit number number') (hvalue : value.kind? = some kind)
    (hconstraints : Constraints calls value string number kind) :
    Constraints calls value string number' kind := by
  cases kind with
  | string => exact hconstraints
  | number =>
      intro hnull
      exact passed_of_numberEdit hvalue h (hconstraints (h.isNull ▸ hnull))
  | boolean => exact hconstraints

theorem validateEnum_of_subset {value enumeration enumeration' : Value}
    {options options' : List Value} (h : enumeration.iterate = .ok options)
    (h' : enumeration'.iterate = .ok options') (hsubset : options ⊆ options')
    (hpassed : validateEnum value enumeration = .ok true) :
    validateEnum value enumeration' = .ok true := by
  obtain ⟨items, hitems, option, hoption, hequal⟩ := validateEnum_eq_ok_true_iff.mp hpassed
  cases h.symm.trans hitems
  exact validateEnum_eq_ok_true_iff.mpr ⟨options', h', option, hsubset hoption, hequal⟩

/-- Where the contract is kept and everything represented is let through, acceptance is kept. -/
theorem passed_of_fields {calls : Interpretation} {value : Value}
    {scalar array array' object object' enumeration enumeration' string string' number number' :
      Value} {optional optional' nullable nullable' : Value}
    (h : (validate calls value
      (.complexSchema scalar array object enumeration string number optional nullable)).Passed)
    (harray : array'.isNull = array.isNull) (hobject : object'.isNull = object.isNull)
    (henum : enumeration'.isNull = enumeration.isNull) (hstring : string'.isNull = string.isNull)
    (happlied : stringConstraint string = .ok () → stringConstraint string' = .ok ())
    (hnumber : number'.isNull = number.isNull)
    (happlied' : numberConstraint number = .ok () → numberConstraint number' = .ok ())
    (hnullable : nullable.isTrue = true → nullable'.isTrue = true)
    (hoptional : optional.isTrue = true → optional'.isTrue = true)
    (hrepresents : ∀ kind,
      Represents calls value scalar array object enumeration string number kind →
      Represents calls value scalar array' object' enumeration' string' number' kind) :
    (validate calls value
      (.complexSchema scalar array' object' enumeration' string' number' optional'
        nullable')).Passed := by
  obtain ⟨kind, hkind, hadmitted⟩ := passed_validate_complex.mp h
  refine passed_validate_complex.mpr
    ⟨kind, ?_, hadmitted.imp hnullable hoptional (hrepresents kind)⟩
  exact aggregation_of_fields harray hobject henum hstring happlied hnumber happlied' hkind

/-- One edit keeps every accepted value accepted. -/
theorem passed_of_edit {schema schema' : Value} (h : Edit schema schema')
    (calls : Interpretation) {value : Value} (hpassed : (validate calls value schema).Passed) :
    (validate calls value schema').Passed := by
  -- Every edit changes one field, so all that differs is which aggregation needs a proof.
  induction h generalizing value with
  | nullable h =>
      exact passed_of_fields hpassed rfl rfl rfl rfl id rfl id (fun _ => h) id (fun _ => id)
  | optional h =>
      exact passed_of_fields hpassed rfl rfl rfl rfl id rfl id id (fun _ => h) (fun _ => id)
  | string h =>
      refine passed_of_fields hpassed rfl rfl rfl h.isNull h.applies rfl id id id ?_
      intro kind hkind
      exact hkind.imp id id id fun tag _ hconstraints => constraints_of_stringEdit h hconstraints
  | number h =>
      refine passed_of_fields hpassed rfl rfl rfl rfl id h.isNull h.applies id id ?_
      intro kind hkind
      exact hkind.imp id id id fun tag hvalue hconstraints =>
        constraints_of_numberEdit h hvalue hconstraints
  | array h =>
      refine passed_of_fields hpassed h.isNull rfl rfl rfl id rfl id id id ?_
      intro kind hkind
      exact hkind.imp (passed_of_arrayEdit h) id id fun tag _ => id
  | object h =>
      refine passed_of_fields hpassed rfl h.isNull rfl rfl id rfl id id id ?_
      intro kind hkind
      exact hkind.imp id (passed_of_objectEdit h) id fun tag _ => id
  | options h h' hsubset =>
      have hset := (not_null_of_iterate h').trans (not_null_of_iterate h).symm
      refine passed_of_fields hpassed rfl rfl hset rfl id rfl id id id ?_
      intro kind hkind
      exact hkind.imp id id (validateEnum_of_subset h h' hsubset) fun tag _ => id
  | item h ih =>
      refine passed_of_fields hpassed rfl rfl rfl rfl id rfl id id id ?_
      intro kind hkind
      exact hkind.imp (passed_of_item fun hitem => ih hitem) id id fun tag _ => id
  | member hmembers hmembers' h ih =>
      refine passed_of_fields hpassed rfl rfl rfl rfl id rfl id id id ?_
      intro kind hkind
      exact hkind.imp id (passed_of_member hmembers hmembers' fun hpart => ih hpart) id
        fun tag _ => id

/-- Relaxing a schema keeps every accepted value accepted. -/
theorem validate_passed_of_relaxed {schema schema' : Value} (h : Relaxed schema schema')
    (calls : Interpretation) {value : Value} (hpassed : (validate calls value schema).Passed) :
    (validate calls value schema').Passed := by
  induction h with
  | refl => exact hpassed
  | tail _ hedit ih => exact passed_of_edit hedit calls ih

def boundedWhole (min : Value) : Value :=
  .complexSchema (.str "number") .null .null .null .null
    (.numberSchema .null min .null (.bool true) (.float defaultEpsilon)) (.bool false)
    (.bool false)

def optionalText : Value :=
  .complexSchema (.str "string") .null .null .null .null .null (.bool true) (.bool false)

def recordOf (members : Value.Entries) (nullable : Bool) : Value :=
  .complexSchema .null .null (.objectSchema (.dict members) (.bool false) .null) .null .null .null
    (.bool false) (.bool nullable)

theorem relaxed_recordOf :
    Relaxed (recordOf [(.str "id", boundedWhole (.int 0))] false)
      (recordOf [(.str "id", boundedWhole .null), (.str "note", optionalText)] true) := by
  have hbound : Edit (recordOf [(.str "id", boundedWhole (.int 0))] false)
      (recordOf [(.str "id", boundedWhole .null)] false) := by
    have hmembers : ∀ part, entriesOf? (.dict [(.str "id", part)]) =
        some ([] ++ (.str "id", part) :: []) := fun _ => rfl
    exact .member (hmembers _) (hmembers _) (.number (.min .dropped))
  have hadded : Edit (recordOf [(.str "id", boundedWhole .null)] false)
      (recordOf [(.str "id", boundedWhole .null), (.str "note", optionalText)] false) := by
    have hkeyed : Keyed ([(.str "id", boundedWhole .null)] ++ [(.str "note", optionalText)]) := by
      decide
    exact .object (.addMember rfl rfl rfl hkeyed ⟨rfl, .scalar, rfl⟩)
  have hnullable : Edit
      (recordOf [(.str "id", boundedWhole .null), (.str "note", optionalText)] false)
      (recordOf [(.str "id", boundedWhole .null), (.str "note", optionalText)] true) :=
    .nullable rfl
  exact ((Relation.ReflTransGen.single hbound).tail hadded).tail hnullable

theorem validate_passed_of_relaxed_record :
    Relaxed (recordOf [(.str "id", boundedWhole (.int 0))] false)
        (recordOf [(.str "id", boundedWhole .null), (.str "note", optionalText)] true) ∧
      (validate standard (.dict [(.str "id", .int 7)])
        (recordOf [(.str "id", boundedWhole (.int 0))] false)).Passed ∧
      (validate standard (.dict [(.str "id", .int 7)])
        (recordOf [(.str "id", boundedWhole .null), (.str "note", optionalText)] true)).Passed := by
  have hpassed : (validate standard (.dict [(.str "id", .int 7)])
      (recordOf [(.str "id", boundedWhole (.int 0))] false)).Passed := by decide +kernel
  exact ⟨relaxed_recordOf, hpassed,
    validate_passed_of_relaxed relaxed_recordOf standard hpassed⟩

end Conformance.Schema
