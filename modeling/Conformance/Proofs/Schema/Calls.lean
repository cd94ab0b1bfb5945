import Conformance.Proofs.Schema.Acceptance
import Conformance.Proofs.Schema.Reach
import Conformance.Proofs.Value.Equivalence

/-! # What predicates are called with

Every check calls at most one predicate, and only with a value that has come through the guards in
front of it: a text, a number of the kind and in the range asked for, a list of the length asked
for, or a plain record of declared members. So a validation calls at most once at each pair of
positions, and never with nothing or an absent member, wherever it ends.
-/

namespace Conformance.Schema

/-- At most one predicate is called, and the call that is made is good. -/
def CallsOnce (good : String × Value → Prop) (outcome : Outcome α) : Prop :=
  ∃ call : Option (String × Value), outcome.calls = call.toList ∧ ∀ c ∈ call, good c

section CallsOnce

variable {good : String × Value → Prop}

theorem callsOnce_of_quiet {outcome : Outcome α} (h : outcome.calls = []) :
    CallsOnce good outcome := ⟨none, h, by simp⟩

/-- What is done after a step without calls is all that calls. -/
theorem CallsOnce.after {first : Outcome α} {next : α → Outcome β} (hquiet : first.calls = [])
    (h : ∀ a, first.result = .ok a → CallsOnce good (next a)) :
    CallsOnce good (first.bind next) := by
  cases hfirst : first.result with
  | error fault =>
      apply callsOnce_of_quiet
      rw [Outcome.calls_bind_of_error hfirst, hquiet]
  | ok a =>
      obtain ⟨call, hcall, hgood⟩ := h a hfirst
      refine ⟨call, ?_, hgood⟩
      rw [Outcome.calls_bind_of_ok hfirst, hquiet, List.nil_append, hcall]

/-- Behind a guard, a call is made only if the guard is passed. -/
theorem callsOnce_guarded {guard : Except Fault Bool} {second : Outcome Bool}
    (h : guard = .ok true → CallsOnce good second) :
    CallsOnce good ((Outcome.ofExcept guard).andThen second) := by
  apply CallsOnce.after (Outcome.calls_ofExcept guard)
  intro passed hpassed
  cases passed with
  | true => exact h hpassed
  | false => exact callsOnce_of_quiet (Outcome.calls_pure false)

theorem CallsOnce.andThen_quiet {first second : Outcome Bool} (h : CallsOnce good first)
    (hquiet : second.calls = []) : CallsOnce good (first.andThen second) := by
  by_cases hpassed : first.Passed
  · obtain ⟨call, hcall, hgood⟩ := h
    refine ⟨call, ?_, hgood⟩
    rw [Outcome.calls_andThen_of_passed hpassed, hquiet, List.append_nil, hcall]
  · rwa [Outcome.andThen_of_not_passed hpassed]

theorem callsOnce_callMatcher (calls : Interpretation) {matcher value : Value}
    (h : ∀ label name action argument, matcher = .predicate label name action argument →
      good (label, value)) :
    CallsOnce good (callMatcher calls matcher value) := by
  cases matcher
  case predicate label name action argument =>
    exact ⟨some (label, value), rfl, by simpa using h label name action argument rfl⟩
  all_goals exact callsOnce_of_quiet rfl

theorem callsOnce_passesMatcher (calls : Interpretation) {matcher value : Value}
    (h : ∀ label name action argument, matcher = .predicate label name action argument →
      good (label, value)) :
    CallsOnce good (passesMatcher calls matcher value) := by
  unfold passesMatcher
  split
  · exact callsOnce_of_quiet rfl
  · exact callsOnce_callMatcher calls h

end CallsOnce

/-- A conjunction of tests calls what some of them call, each at most once and in their order. -/
theorem calls_all {test : α → Outcome Bool} {good : α → String × Value → Prop} {xs : List α}
    (h : ∀ x ∈ xs, CallsOnce (good x) (test x)) :
    ∃ made : List (α × String × Value), (Outcome.all test xs).calls = made.map (·.2) ∧
      (made.map (·.1)).Sublist xs ∧ ∀ m ∈ made, good m.1 m.2 := by
  induction xs with
  | nil => exact ⟨[], rfl, .refl _, by simp⟩
  | cons x xs ih =>
      obtain ⟨call, hcall, hgood⟩ := h x List.mem_cons_self
      have hone : ∀ m ∈ call.toList.map (x, ·), good m.1 m.2 := by
        intro m hm
        obtain ⟨c, hc, rfl⟩ := List.mem_map.mp hm
        exact hgood c (Option.mem_toList.mp hc)
      have hfirst : ((call.toList.map (x, ·)).map (·.1)).Sublist [x] := by
        cases call <;> simp
      by_cases hpassed : (test x).Passed
      · obtain ⟨made, hmade, hsublist, hall⟩ := ih fun y hy => h y (List.mem_cons_of_mem x hy)
        refine ⟨call.toList.map (x, ·) ++ made, ?_, ?_, ?_⟩
        · rw [Outcome.all_cons, Outcome.calls_andThen_of_passed hpassed, hcall, hmade]
          simp [Function.comp_def]
        · rw [List.map_append]
          exact hfirst.append hsublist
        · intro m hm
          rcases List.mem_append.mp hm with hm | hm
          · exact hone m hm
          · exact hall m hm
      · refine ⟨call.toList.map (x, ·), ?_, ?_, hone⟩
        · rw [Outcome.all_cons, Outcome.andThen_of_not_passed hpassed, hcall]
          simp [Function.comp_def]
        · exact hfirst.trans (List.singleton_sublist.mpr List.mem_cons_self)

/-! ## Guards -/

/-- A number that is whole if that is asked, not below a least and not above a greatest one. -/
def InRange (value min max isInteger : Value) : Prop :=
  ∃ n, value.number? = some n ∧ (isInteger.truthy = true → n.isIntegral = true) ∧
    (∀ a, min.number? = some a → Value.Number.less n a = false) ∧
      ∀ a, max.number? = some a → Value.Number.less a n = false

/-- A size that is the exact one, no less than the least and no more than the greatest. -/
def FitsLengths (size : Nat) (length minLength maxLength : Value) : Prop :=
  (∀ n, length.number? = some (.int n) → (size : Int) = n) ∧
    (∀ n, minLength.number? = some (.int n) → n ≤ size) ∧
      ∀ n, maxLength.number? = some (.int n) → (size : Int) ≤ n

/-- The labelled predicate stands in a schema where the guards in front of it let the value
through. -/
inductive Guarded : Value → String → Value → Prop
  | text {scalar array object enumeration argument number optional nullable value : Value}
      {label name : String} {action : Action} (hkind : value.kind? = some .string) :
      Guarded
        (.complexSchema scalar array object enumeration
          (.stringSchema (.predicate label name action argument)) number optional nullable)
        label value
  | number {scalar array object enumeration string argument min max isInteger epsilon optional
      nullable value : Value} {label name : String} {action : Action}
      (hkind : value.kind? = some .number) (hrange : InRange value min max isInteger) :
      Guarded
        (.complexSchema scalar array object enumeration string
          (.numberSchema (.predicate label name action argument) min max isInteger epsilon)
          optional nullable)
        label value
  | list {scalar itemType length minLength maxLength argument object enumeration string number
      optional nullable value : Value} {label name : String} {action : Action}
      {items : List Value} (hitems : value.items? = some items)
      (hlengths : FitsLengths items.length length minLength maxLength) :
      Guarded
        (.complexSchema scalar
          (.arraySchema itemType length minLength maxLength
            (.predicate label name action argument))
          object enumeration string number optional nullable)
        label value
  | record {scalar array members allowExtraMembers argument enumeration string number optional
      nullable value : Value} {label name : String} {action : Action}
      {entries known : Value.Entries} (hentries : value.entries? = some entries)
      (hknown : entriesOf? members = some known)
      (hnames : allowExtraMembers.truthy = false →
        ∀ e ∈ entries, ∃ d ∈ known, Value.equal e.1 d.1 = true) :
      Guarded
        (.complexSchema scalar array
          (.objectSchema members allowExtraMembers (.predicate label name action argument))
          enumeration string number optional nullable)
        label value

/-- What comes through a guard is there. -/
theorem Guarded.not_absent {schema value : Value} {label : String}
    (h : Guarded schema label value) : value.isNull = false ∧ value.isMissing = false := by
  cases h with
  | text hkind => exact ⟨Value.isNull_of_kind hkind, Value.isMissing_of_kind hkind⟩
  | number hkind hrange => exact ⟨Value.isNull_of_kind hkind, Value.isMissing_of_kind hkind⟩
  | list hitems hlengths => exact not_absent_of_items hitems
  | record hentries hknown hnames => exact not_absent_of_entries hentries

def isStringField : Value → Bool
  | .null | .stringSchema _ => true
  | _ => false

def isNumberField : Value → Bool
  | .null | .numberSchema _ _ _ _ _ => true
  | _ => false

def isObjectField : Value → Bool
  | .null => true
  | .objectSchema members _ _ => (entriesOf? members).isSome
  | _ => false

/-- The constraints of a structured schema are of the types they are declared with. -/
def Typed : Value → Prop
  | .complexSchema _ _ object _ string number _ _ =>
    isObjectField object = true ∧ isStringField string = true ∧ isNumberField number = true
  | _ => True

/-- A call with the value, at a predicate of the schema whose guards let the value through. -/
def Admits (value schema : Value) (call : String × Value) : Prop :=
  call.2 = value ∧ Guarded schema call.1 value

section Checks

variable {value scalar array object enumeration string number optional nullable : Value}

theorem inRange_of_admitsNumber {expected min max isInteger epsilon : Value}
    (hkind : value.kind? = some .number)
    (h : admitsNumber value (.numberSchema expected min max isInteger epsilon) = .ok true) :
    InRange value min max isInteger := by
  obtain ⟨n, hn⟩ := Value.number?_of_kind hkind
  obtain ⟨hwhole, hbelow, habove⟩ := admitsNumber_eq_ok_true_iff.mp h
  refine ⟨n, hn, ?_, ?_, ?_⟩
  · intro hasked
    have hintegral := hwhole hasked
    rw [isIntegral, hn] at hintegral
    exact Except.ok.inj hintegral
  · intro a ha
    rw [outside_of_number hn ha] at hbelow
    exact Except.ok.inj hbelow
  · intro a ha
    rw [outside_of_number hn ha] at habove
    exact Except.ok.inj habove

theorem fitsLengths_of_admitsLength {size : Nat} {length minLength maxLength : Value}
    (h : admitsLength size length minLength maxLength = .ok true) :
    FitsLengths size length minLength maxLength := by
  obtain ⟨hexact, hbelow, habove⟩ := admitsLength_eq_ok_true_iff.mp h
  refine ⟨?_, ?_, ?_⟩
  · intro n hn
    have hequal := hexact (isNull_of_number hn)
    rw [Value.equal_of_numbers rfl hn, Value.Number.equal_int] at hequal
    simpa using hequal
  · intro n hn
    rw [outside_of_number rfl hn, Except.ok.injEq] at hbelow
    simpa [Value.Comparison.apply, Value.Number.less_int] using hbelow
  · intro n hn
    rw [outside_of_number rfl hn, Except.ok.injEq] at habove
    simpa [Value.Comparison.apply, Value.Number.less_int] using habove

theorem callsOnce_validateString (calls : Interpretation) (hstring : isStringField string = true)
    (hset : string.isNull = false) (hkind : value.kind? = some .string) :
    CallsOnce
      (Admits value
        (.complexSchema scalar array object enumeration string number optional nullable))
      (validateString calls value string) := by
  cases string <;> simp only [isStringField, reduceCtorEq] at hstring
  case null => cases hset
  case stringSchema matcher =>
    rw [validateString_stringSchema]
    split
    · exact callsOnce_of_quiet rfl
    · exact callsOnce_of_quiet rfl
    · split
      · exact callsOnce_of_quiet rfl
      · apply callsOnce_callMatcher
        rintro label name action argument rfl
        exact ⟨rfl, .text hkind⟩

theorem callsOnce_validateNumber (calls : Interpretation) (hnumber : isNumberField number = true)
    (hset : number.isNull = false) (hkind : value.kind? = some .number) :
    CallsOnce
      (Admits value
        (.complexSchema scalar array object enumeration string number optional nullable))
      (validateNumber calls value number) := by
  cases number <;> simp only [isNumberField, reduceCtorEq] at hnumber
  case null => cases hset
  case numberSchema expected min max isInteger epsilon =>
    rw [validateNumber_numberSchema]
    apply callsOnce_guarded
    intro hadmits
    have hrange := inRange_of_admitsNumber hkind hadmits
    split
    · exact callsOnce_of_quiet rfl
    · split
      · exact callsOnce_of_quiet rfl
      · apply callsOnce_callMatcher
        rintro label name action argument rfl
        exact ⟨rfl, .number hkind hrange⟩

theorem callsOnce_checkArray (calls : Interpretation) :
    CallsOnce
      (Admits value
        (.complexSchema scalar array object enumeration string number optional nullable))
      (checkArray calls value array) := by
  unfold checkArray
  cases hitems : value.items? with
  | none => exact callsOnce_of_quiet rfl
  | some items =>
      cases array
      case arraySchema itemType length minLength maxLength matcher =>
        dsimp only
        rw [admitsArray_eq_andThen]
        apply callsOnce_guarded
        intro hlength
        apply callsOnce_passesMatcher
        rintro label name action argument rfl
        exact ⟨rfl, .list hitems (fitsLengths_of_admitsLength hlength)⟩
      all_goals exact callsOnce_of_quiet rfl

theorem callsOnce_checkObject (calls : Interpretation) (hobject : isObjectField object = true) :
    CallsOnce
      (Admits value
        (.complexSchema scalar array object enumeration string number optional nullable))
      (checkObject calls value object) := by
  unfold checkObject
  cases hentries : value.entries? with
  | none => exact callsOnce_of_quiet rfl
  | some entries =>
      cases object
      case objectSchema members allowExtraMembers matcher =>
        obtain ⟨known, hknown⟩ := Option.isSome_iff_exists.mp hobject
        dsimp only
        apply CallsOnce.andThen_quiet
        · rw [admitsObject_eq_andThen]
          apply callsOnce_guarded
          intro hguard
          have hnames : allowExtraMembers.truthy = false →
              ∀ e ∈ entries, ∃ d ∈ known, Value.equal e.1 d.1 = true := by
            intro hextra e he
            rw [hextra, if_neg Bool.false_ne_true] at hguard
            exact ((declared_iff_names hknown).mp hguard e he).2
          apply callsOnce_passesMatcher
          rintro label name action argument rfl
          exact ⟨rfl, .record hentries hknown hnames⟩
        · rw [enumerable, hknown]
          rfl
      all_goals exact callsOnce_of_quiet rfl

theorem callsOnce_validateScalar (calls : Interpretation) {kind : Kind}
    (htag : tag? scalar = some kind) (hstring : isStringField string = true)
    (hnumber : isNumberField number = true) :
    CallsOnce
      (Admits value
        (.complexSchema scalar array object enumeration string number optional nullable))
      (validateScalar calls value
        (.complexSchema scalar array object enumeration string number optional nullable)) := by
  rw [validateScalar_of_tag calls htag]
  split
  · next hkind =>
      cases kind with
      | string =>
          cases hset : string.isNull with
          | true => exact callsOnce_of_quiet rfl
          | false => exact callsOnce_validateString calls hstring hset hkind
      | number =>
          cases hset : number.isNull with
          | true => exact callsOnce_of_quiet rfl
          | false => exact callsOnce_validateNumber calls hnumber hset hkind
      | boolean => exact callsOnce_of_quiet rfl
  · exact callsOnce_of_quiet rfl

end Checks

/-- A check calls one predicate at most, with the value that has come through the guards of the
schema. -/
theorem callsOnce_check (calls : Interpretation) (value : Value) {schema : Value}
    (h : Typed schema) : CallsOnce (Admits value schema) (check calls value schema) := by
  cases schema
  case complexSchema scalar array object enumeration string number optional nullable =>
    obtain ⟨hobject, hstring, hnumber⟩ := h
    rw [check]
    apply CallsOnce.after (calls_inferAggregation _)
    intro kind hkind
    rw [inferAggregation_eq_ok_iff] at hkind
    split
    · exact callsOnce_of_quiet rfl
    split
    · exact callsOnce_of_quiet rfl
    cases kind with
    | array => exact callsOnce_checkArray calls
    | object => exact callsOnce_checkObject calls hobject
    | enumeration => exact callsOnce_of_quiet rfl
    | scalar =>
        obtain ⟨-, tag, htag, -⟩ := aggregation_eq_ok_iff.mp hkind
        exact callsOnce_validateScalar calls htag hstring hnumber
  all_goals
    rw [check]
    · split
      · exact callsOnce_of_quiet rfl
      · exact CallsOnce.after (calls_inferAggregation _) fun _ _ => callsOnce_of_quiet rfl
    all_goals simp

/-! ## The whole validation -/

/-- However the predicates answer and wherever the validation ends, each call stands at a position
of the value and one of the schema, no two of them at the same. It is a call of the predicate of
the schema there with the value there, which has come through the guards and is neither nothing
nor an absent member. -/
theorem validate_calls_guarded (calls : Interpretation) (value : Value) {schema : Value}
    (htyped : Every Typed schema) :
    ∃ made : List (Visit × String),
      (validate calls value schema).calls = made.map (fun m => (m.2, m.1.value)) ∧
      (made.map fun m => m.1.position).Nodup ∧
      ∀ m ∈ made, Reached value schema m.1.path m.1.places m.1.value m.1.schema ∧
        Guarded m.1.schema m.2 m.1.value ∧
        m.1.value.isNull = false ∧ m.1.value.isMissing = false := by
  have hvisits : validate calls value schema =
      Outcome.all (fun visit => check calls visit.value visit.schema) (visits value schema) := by
    rw [validate_eq_all_trace, ← map_visits, Outcome.all_map]
    rfl
  have hchecks : ∀ visit ∈ visits value schema,
      CallsOnce (Admits visit.value visit.schema) (check calls visit.value visit.schema) := by
    intro visit hvisit
    exact callsOnce_check calls _ ((reached_of_mem_visits hvisit).every htyped).root
  obtain ⟨made, hmade, hsublist, hgood⟩ := calls_all hchecks
  refine ⟨made.map fun m => (m.1, m.2.1), ?_, ?_, ?_⟩
  · rw [hvisits, hmade, List.map_map]
    apply List.map_congr_left
    intro m hm
    obtain ⟨hvalue, -⟩ := hgood m hm
    exact Prod.ext rfl hvalue
  · have hdistinct := (visits_pairwise value schema).sublist hsublist
    rw [List.pairwise_map] at hdistinct
    rw [List.map_map]
    exact List.pairwise_map.mpr hdistinct
  · intro call hcall
    obtain ⟨m, hm, rfl⟩ := List.mem_map.mp hcall
    obtain ⟨-, hguarded⟩ := hgood m hm
    have hvisit := hsublist.subset (List.mem_map.mpr ⟨m, hm, rfl⟩)
    exact ⟨reached_of_mem_visits hvisit, hguarded, hguarded.not_absent⟩

/-- A whole number from zero, or nothing, that a predicate compares with two. -/
def amountField : Value :=
  .complexSchema (.str "number") .null .null .null .null
    (.numberSchema (.predicate "above two" "above" .exceeds (.int 2)) (.int 0) .null (.bool true)
      .null)
    (.bool false) (.bool true)

def amountsField : Value :=
  .complexSchema .null
    (.arraySchema amountField .null .null (.int 4) (.predicate "filled" "filled" .length .null))
    .null .null .null .null (.bool false) (.bool false)

def noteField : Value :=
  .complexSchema (.str "string") .null .null .null
    (.stringSchema (.predicate "written" "written" .length .null)) .null (.bool true) (.bool false)

def orderRecord : Value :=
  .complexSchema .null .null
    (.objectSchema (.dict [(.str "note", noteField), (.str "amounts", amountsField)]) (.bool false)
      .null)
    .null .null .null (.bool false) (.bool false)

/-- An order without a note. The third amount is refused, so the last one is not looked at. -/
def placedOrder : Value := .dict [(.str "amounts", .list [.int 3, .null, .int 1, .int 4])]

theorem typed_orderRecord : Every Typed orderRecord := by
  have hamount : Every Typed amountField :=
    .intro ⟨rfl, rfl, rfl⟩ (by simp [amountField, parts, itemTypes, declarations])
  have hamounts : Every Typed amountsField :=
    .intro ⟨rfl, rfl, rfl⟩ (by simpa [amountsField, parts, itemTypes, declarations] using hamount)
  have hnote : Every Typed noteField :=
    .intro ⟨rfl, rfl, rfl⟩ (by simp [noteField, parts, itemTypes, declarations])
  refine .intro ⟨rfl, rfl, rfl⟩ ?_
  simpa [orderRecord, parts, itemTypes, declarations, entriesOf?] using ⟨hnote, hamounts⟩

theorem validate_calls_guarded_order :
    Every Typed orderRecord ∧
      ∃ made : List (Visit × String),
        made.map (·.2) = ["filled", "above two", "above two"] ∧
        (validate standard placedOrder orderRecord).calls = made.map (fun m => (m.2, m.1.value)) ∧
        (made.map fun m => m.1.position).Nodup ∧
        ∀ m ∈ made, Reached placedOrder orderRecord m.1.path m.1.places m.1.value m.1.schema ∧
          Guarded m.1.schema m.2 m.1.value ∧
          m.1.value.isNull = false ∧ m.1.value.isMissing = false := by
  obtain ⟨made, hmade, hdistinct, hall⟩ :=
    validate_calls_guarded standard placedOrder typed_orderRecord
  have hlabels : (validate standard placedOrder orderRecord).calls.map (·.1) =
      ["filled", "above two", "above two"] := by decide +kernel
  rw [hmade, List.map_map] at hlabels
  exact ⟨typed_orderRecord, made, hlabels, hmade, hdistinct, hall⟩

end Conformance.Schema
