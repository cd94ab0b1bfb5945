import Conformance.Proofs.Schema.Agreement
import Conformance.Proofs.Schema.Normal
import Conformance.Proofs.Value.Sorting

/-! # What the matchers of containers are shown

The matcher of an array or an object is called before the items or members are validated. What it
is called with is a list of a length that the schema admits, or a plain record of keys that the
schema declares, and nothing is known of what these contain. A matcher that raises on such a
container ends the validation with its fault; if none does, validation is the same as with matchers
that never raise.
-/

namespace Conformance.Schema

/-- No predicate is called with a text or a number. -/
def CallsOnlyMatchers : Value → Prop
  | .complexSchema _ _ _ _ string number _ _ =>
    uncalled string "matcher" = true ∧ uncalled number "value" = true
  | _ => True

/-- The schema has the matcher for containers like the value: for lists or for plain records. -/
inductive Oversees : Value → Value → Value → Prop
  | list {scalar itemType length minLength maxLength matcher object enumeration string number
      optional nullable value : Value} {items : List Value} (hitems : value.items? = some items) :
      Oversees
        (.complexSchema scalar (.arraySchema itemType length minLength maxLength matcher) object
          enumeration string number optional nullable)
        matcher value
  | record {scalar array members allowExtraMembers matcher enumeration string number optional
      nullable value : Value} {entries : Value.Entries}
      (hentries : value.entries? = some entries) :
      Oversees
        (.complexSchema scalar array (.objectSchema members allowExtraMembers matcher)
          enumeration string number optional nullable)
        matcher value

/-- What stands in front of the matcher lets the value through. -/
inductive Shown : Value → Value → Value → Prop
  | list {scalar itemType length minLength maxLength matcher object enumeration string number
      optional nullable value : Value} {items : List Value} (hitems : value.items? = some items)
      (hlength : admitsLength items.length length minLength maxLength = .ok true) :
      Shown
        (.complexSchema scalar (.arraySchema itemType length minLength maxLength matcher) object
          enumeration string number optional nullable)
        matcher value
  | record {scalar array members allowExtraMembers matcher enumeration string number optional
      nullable value : Value} {entries : Value.Entries}
      (hentries : value.entries? = some entries)
      (hkeys : allowExtraMembers.truthy = false → declared members entries = .ok true) :
      Shown
        (.complexSchema scalar array (.objectSchema members allowExtraMembers matcher)
          enumeration string number optional nullable)
        matcher value

theorem Shown.oversees {schema matcher value : Value} (h : Shown schema matcher value) :
    Oversees schema matcher value := by
  cases h with
  | list hitems _ => exact .list hitems
  | record hentries _ => exact .record hentries

theorem Shown.not_simple {schema matcher value : Value} (h : Shown schema matcher value) :
    ¬ isSimple schema = true := by
  cases h <;> exact Bool.false_ne_true

/-- A matcher is shown the value and raises. -/
def Raises (calls : Interpretation) (value schema : Value) (fault : Fault) : Prop :=
  ∃ matcher, Shown schema matcher value ∧
    (passesMatcher calls matcher value).result = .error fault

/-- The matcher returns on every container whose items or declared members all validate. -/
def HandlesConforming (calls : Interpretation) (schema : Value) : Prop :=
  ∀ matcher value, Oversees schema matcher value →
    (∀ q ∈ children value schema, (validate calls q.1 q.2).Passed) →
      Answers (passesMatcher calls matcher value)

/-- The matcher returns on every container that it is shown. -/
def HandlesShown (calls : Interpretation) (schema : Value) : Prop :=
  ∀ matcher value, Shown schema matcher value → Answers (passesMatcher calls matcher value)

section Handled

variable {calls : Interpretation} {value schema : Value} {fault : Fault}

/-- A matcher that handles what it is shown raises on nothing. -/
theorem not_raises_of_handlesShown (h : HandlesShown calls schema) :
    ¬ Raises calls value schema fault := by
  rintro ⟨matcher, hshown, hraises⟩
  exact (h matcher value hshown).result_ne_error fault hraises

/-- What a matcher raises on although it handles what conforms has a part that does not. -/
theorem exists_unfit_of_raises (hhandles : HandlesConforming calls schema)
    (h : Raises calls value schema fault) :
    ∃ child ∈ children value schema, ¬ (validate calls child.1 child.2).Passed := by
  obtain ⟨matcher, hshown, hraises⟩ := h
  by_contra hnone
  have hconforms : ∀ q ∈ children value schema, (validate calls q.1 q.2).Passed := by
    intro q hq
    by_contra hunfit
    exact hnone ⟨q, hq, hunfit⟩
  exact (hhandles matcher value hshown.oversees hconforms).result_ne_error fault hraises

end Handled

/-- The same calls, with an answer in place of every fault. -/
def hushed (calls : Interpretation) : Interpretation := fun matcher value =>
  .ok ((calls matcher value).toOption.getD .null)

theorem passesMatcher_hushed {calls : Interpretation} {matcher value : Value}
    (h : Answers (passesMatcher calls matcher value)) :
    passesMatcher (hushed calls) matcher value = passesMatcher calls matcher value := by
  obtain ⟨passed, hpassed⟩ := h
  unfold passesMatcher at hpassed ⊢
  split
  · rfl
  · next hset =>
      rw [if_neg hset] at hpassed
      cases matcher
      case predicate label name action argument =>
        simp only [callMatcher] at hpassed ⊢
        cases hcall : calls (.predicate label name action argument) value with
        | error fault => simp [hcall, Except.map] at hpassed
        | ok answer => simp [hushed, hcall, Except.toOption]
      all_goals rfl

/-! ## Checks with different predicates -/

section Checks

variable {calls calls' : Interpretation} {value schema : Value} {fault : Fault}

theorem callMatcher_uncalled {record part : Value} {name : String}
    (h : uncalled record name = true) (hpart : record.part? name = some part) :
    callMatcher calls part value = callMatcher calls' part value := by
  have hcallable := not_callable_of_uncalled h hpart
  rw [callMatcher_of_not_callable calls value hcallable,
    callMatcher_of_not_callable calls' value hcallable]

theorem validateString_uncalled {string : Value} (h : uncalled string "matcher" = true) :
    validateString calls value string = validateString calls' value string := by
  unfold validateString Value.part
  cases hpart : string.part? "matcher" with
  | none => rfl
  | some matcher =>
      have hcall : callMatcher calls matcher value = callMatcher calls' matcher value :=
        callMatcher_uncalled h hpart
      simp only [Outcome.bind_eq_bind, Outcome.liftM_eq_ofExcept, Outcome.ofExcept_ok,
        Outcome.bind_pure_left, hcall]

theorem validateNumber_uncalled {number : Value} (h : uncalled number "value" = true) :
    validateNumber calls value number = validateNumber calls' value number := by
  unfold validateNumber Value.part
  cases hpart : number.part? "value" with
  | none => rfl
  | some expected =>
      have hcall : callMatcher calls expected value = callMatcher calls' expected value :=
        callMatcher_uncalled h hpart
      simp only [Outcome.bind_eq_bind, Outcome.liftM_eq_ofExcept, Outcome.ofExcept_ok,
        Outcome.bind_pure_left, hcall]

section Structured

variable {scalar array object enumeration string number optional nullable : Value}

theorem validateScalar_uncalled {tag : Kind} (htag : tag? scalar = some tag)
    (hstring : uncalled string "matcher" = true) (hnumber : uncalled number "value" = true) :
    validateScalar calls value
        (.complexSchema scalar array object enumeration string number optional nullable) =
      validateScalar calls' value
        (.complexSchema scalar array object enumeration string number optional nullable) := by
  have htext : validateString calls value string = validateString calls' value string :=
    validateString_uncalled hstring
  have hnumeric : validateNumber calls value number = validateNumber calls' value number :=
    validateNumber_uncalled hnumber
  rw [validateScalar_of_tag calls htag, validateScalar_of_tag calls' htag, htext, hnumeric]

theorem checkArray_congr
    (h : ∀ matcher,
      Shown (.complexSchema scalar array object enumeration string number optional nullable)
        matcher value →
      passesMatcher calls matcher value = passesMatcher calls' matcher value) :
    checkArray calls value array = checkArray calls' value array := by
  unfold checkArray
  cases hitems : value.items? with
  | none => rfl
  | some items =>
      cases array
      case arraySchema itemType length minLength maxLength matcher =>
        dsimp only
        rw [admitsArray_eq_andThen, admitsArray_eq_andThen]
        apply Outcome.andThen_congr
        intro hlength
        exact h matcher (.list hitems hlength)
      all_goals rfl

theorem checkObject_congr
    (h : ∀ matcher,
      Shown (.complexSchema scalar array object enumeration string number optional nullable)
        matcher value →
      passesMatcher calls matcher value = passesMatcher calls' matcher value) :
    checkObject calls value object = checkObject calls' value object := by
  unfold checkObject
  cases hentries : value.entries? with
  | none => rfl
  | some entries =>
      cases object
      case objectSchema members allowExtraMembers matcher =>
        dsimp only
        congr 1
        rw [admitsObject_eq_andThen, admitsObject_eq_andThen]
        apply Outcome.andThen_congr
        intro hkeys
        apply h matcher (.record hentries _)
        intro hextra
        simpa [hextra] using hkeys
      all_goals rfl

end Structured

/-- A check depends on the predicates only through the matcher that is shown the value. -/
theorem check_congr (hlawful : Lawful schema) (hschema : CallsOnlyMatchers schema)
    (h : ∀ matcher, Shown schema matcher value →
      passesMatcher calls matcher value = passesMatcher calls' matcher value) :
    check calls value schema = check calls' value schema := by
  cases schema
  case complexSchema scalar array object enumeration string number optional nullable =>
    obtain ⟨kind, hkind⟩ := hlawful.resolve_left (by simp [isSimple, tag?, Value.text?])
    obtain ⟨hstring, hnumber⟩ := hschema
    rw [check, check, inferAggregation_of_ok hkind, Outcome.bind_pure_left, Outcome.bind_pure_left]
    congr 2
    cases kind with
    | array => exact checkArray_congr h
    | object => exact checkObject_congr h
    | enumeration => rfl
    | scalar =>
        obtain ⟨-, tag, htag, -⟩ := aggregation_eq_ok_iff.mp hkind
        exact validateScalar_uncalled htag hstring hnumber
  all_goals rfl

theorem aggregation_eq_array {kind : Aggregation}
    {scalar itemType length minLength maxLength matcher object enumeration string number optional
      nullable : Value}
    (h : aggregation
      (.complexSchema scalar (.arraySchema itemType length minLength maxLength matcher) object
        enumeration string number optional nullable) = .ok kind) : kind = .array := by
  have hpresent := (aggregation_eq_ok_iff.mp h).1
  exact ((present_eq_singleton.mp hpresent .array).mp rfl).symm

theorem aggregation_eq_object {kind : Aggregation}
    {scalar array members allowExtraMembers matcher enumeration string number optional nullable :
      Value}
    (h : aggregation
      (.complexSchema scalar array (.objectSchema members allowExtraMembers matcher) enumeration
        string number optional nullable) = .ok kind) : kind = .object := by
  have hpresent := (aggregation_eq_ok_iff.mp h).1
  exact ((present_eq_singleton.mp hpresent .object).mp rfl).symm

/-- The fault of a matcher is the fault of the check that it is called in. -/
theorem check_of_raises (hlawful : Lawful schema) (h : Raises calls value schema fault) :
    (check calls value schema).result = .error fault := by
  obtain ⟨matcher, hshown, hraises⟩ := h
  obtain ⟨kind, hkind⟩ := hlawful.resolve_left hshown.not_simple
  cases hshown with
  | list hitems hlength =>
      cases aggregation_eq_array hkind
      obtain ⟨hnull, hmissing⟩ := not_absent_of_items hitems
      simp only [check, inferAggregation_of_ok hkind, Outcome.bind_pure_left, hnull, hmissing,
        Bool.false_eq_true, if_false, checkArray, hitems, admitsArray_eq_andThen,
        Outcome.result_andThen_eq_error_iff]
      exact .inr ⟨hlength, hraises⟩
  | record hentries hkeys =>
      cases aggregation_eq_object hkind
      obtain ⟨hnull, hmissing⟩ := not_absent_of_entries hentries
      simp only [check, inferAggregation_of_ok hkind, Outcome.bind_pure_left, hnull, hmissing,
        Bool.false_eq_true, if_false, checkObject, hentries, admitsObject_eq_andThen,
        Outcome.result_andThen_eq_error_iff]
      refine .inl (.inr ⟨?_, hraises⟩)
      simpa using hkeys

end Checks

/-! ## Beside the matchers -/

def withoutMatcher : Value → Value
  | .arraySchema itemType length minLength maxLength _ =>
    .arraySchema itemType length minLength maxLength .null
  | .objectSchema members allowExtraMembers _ => .objectSchema members allowExtraMembers .null
  | field => field

/-- The schema, without its own matcher of containers. -/
def unmatched : Value → Value
  | .complexSchema scalar array object enumeration string number optional nullable =>
    .complexSchema scalar (withoutMatcher array) (withoutMatcher object) enumeration string number
      optional nullable
  | schema => schema

theorem isNull_withoutMatcher (field : Value) : (withoutMatcher field).isNull = field.isNull := by
  cases field <;> rfl

section Unmatched

variable {calls : Interpretation}
  {value scalar array object enumeration string number optional nullable : Value} {fault : Fault}

theorem aggregation_unmatched {schema : Value} {kind : Aggregation} :
    aggregation (unmatched schema) = .ok kind ↔ aggregation schema = .ok kind := by
  cases schema
  case complexSchema scalar array object enumeration string number optional nullable =>
    rw [unmatched, aggregation_eq_ok_iff, aggregation_eq_ok_iff]
    simp only [present, isNull_withoutMatcher]
  all_goals exact Iff.rfl

theorem raises_of_checkArray (hset : array.isNull = false)
    (hliteral : isLiteralArray (withoutMatcher array) = true)
    (h : (checkArray calls value array).result = .error fault) :
    Raises calls value
      (.complexSchema scalar array object enumeration string number optional nullable) fault := by
  unfold checkArray at h
  cases hitems : value.items? with
  | none => simp [hitems, Outcome.pure] at h
  | some items =>
      cases array <;> simp only [withoutMatcher, isLiteralArray, reduceCtorEq] at hliteral
      case null => cases hset
      case arraySchema itemType length minLength maxLength matcher =>
        simp only [Bool.and_eq_true] at hliteral
        obtain ⟨⟨⟨-, hmin⟩, hmax⟩, -⟩ := hliteral
        have hlength : Answers (.ofExcept (admitsLength items.length length minLength maxLength)) :=
          answers_admitsLength items.length hmin hmax
        simp only [hitems, admitsArray_eq_andThen, Outcome.result_andThen_eq_error_iff,
          hlength.result_ne_error, false_or] at h
        exact ⟨matcher, .list hitems h.1, h.2⟩

theorem raises_of_checkObject (hset : object.isNull = false)
    (hliteral : isLiteralObject (withoutMatcher object) = true) (hvalue : Value.WellKeyed value)
    (h : (checkObject calls value object).result = .error fault) :
    Raises calls value
      (.complexSchema scalar array object enumeration string number optional nullable) fault := by
  unfold checkObject at h
  cases hentries : value.entries? with
  | none => simp [hentries, Outcome.pure] at h
  | some entries =>
      cases object <;> simp only [withoutMatcher, isLiteralObject, reduceCtorEq] at hliteral
      case null => cases hset
      case objectSchema members allowExtraMembers matcher =>
        obtain ⟨known, hknown⟩ : ∃ known, entriesOf? members = some known := by
          simpa [Value.isNull, Option.isSome_iff_exists] using hliteral
        obtain ⟨⟨hkeys, -⟩, -⟩ := hvalue.of_mapping (Value.mapping?_of_entries hentries).1
        obtain ⟨passed, hpassed⟩ := declared_answers hknown hkeys
        have hadmitted : Answers (.ofExcept
            (if allowExtraMembers.truthy then .ok true else declared members entries)) := by
          rw [hpassed]
          split
          · exact answers_pure true
          · exact answers_pure passed
        have henumerable : Answers (enumerable members) := by
          rw [enumerable, hknown]
          exact answers_pure true
        simp only [hentries, admitsObject_eq_andThen, Outcome.result_andThen_eq_error_iff,
          hadmitted.result_ne_error, henumerable.result_ne_error, and_false, false_or, or_false]
          at h
        refine ⟨matcher, .record hentries ?_, h.2⟩
        intro hextra
        simpa [hextra] using h.1

/-- A schema that represents no containers has no matcher of them to take away. -/
theorem unmatched_eq_self {kind : Aggregation}
    (hkind : aggregation
      (.complexSchema scalar array object enumeration string number optional nullable) = .ok kind)
    (harray : kind ≠ .array) (hobject : kind ≠ .object) :
    unmatched (.complexSchema scalar array object enumeration string number optional nullable) =
      .complexSchema scalar array object enumeration string number optional nullable := by
  have hpresent := present_eq_singleton.mp (aggregation_eq_ok_iff.mp hkind).1
  have hnoArray : array.isNull ≠ false := fun hset => harray ((hpresent .array).mp hset).symm
  have hnoObject : object.isNull ≠ false := fun hset => hobject ((hpresent .object).mp hset).symm
  cases array <;> simp only [Value.isNull, ne_eq, not_true_eq_false] at hnoArray
  cases object <;> simp only [Value.isNull, ne_eq, not_true_eq_false] at hnoObject
  rfl

/-- Nothing and an absent member are answered for. -/
theorem error_of_present {whenNull whenMissing : Bool} {present : Outcome Bool}
    (h : (if value.isNull then .pure whenNull
      else if value.isMissing then .pure whenMissing else present).result = .error fault) :
    present.result = .error fault := by
  split at h
  · cases h
  · split at h
    · cases h
    · exact h

/-- Constraints of the declared types let no check fault but by a matcher or the overflow. -/
theorem check_error_iff_raises {schema : Value} (hliteral : Literal (unmatched schema))
    (hvalue : Value.WellKeyed value) :
    (check calls value schema).result = .error fault ↔
      Raises calls value schema fault ∨
        fault = .overflow .integerToDouble ∧ Overflows value schema := by
  cases schema
  case complexSchema scalar array object enumeration string number optional nullable =>
    obtain ⟨⟨kind, hunmatched⟩, harray, hobject, -⟩ := id hliteral
    have hkind := aggregation_unmatched.mp hunmatched
    have hset := (present_eq_singleton.mp (aggregation_eq_ok_iff.mp hkind).1 kind).mpr rfl
    have hbeside : kind ≠ .array → kind ≠ .object →
        ((check calls value (.complexSchema scalar array object enumeration string number optional
            nullable)).result = .error fault ↔
          fault = .overflow .integerToDouble ∧ Overflows value (.complexSchema scalar array object
            enumeration string number optional nullable)) := by
      intro hnoArray hnoObject
      rw [unmatched_eq_self hkind hnoArray hnoObject] at hliteral
      exact check_eq_error_iff calls hliteral hvalue
    constructor
    · intro h
      cases kind with
      | array =>
          rw [check, inferAggregation_of_ok hkind, Outcome.bind_pure_left] at h
          exact .inl (raises_of_checkArray hset harray (error_of_present h))
      | object =>
          rw [check, inferAggregation_of_ok hkind, Outcome.bind_pure_left] at h
          exact .inl (raises_of_checkObject hset hobject hvalue (error_of_present h))
      | enumeration => exact .inr ((hbeside (by simp) (by simp)).mp h)
      | scalar => exact .inr ((hbeside (by simp) (by simp)).mp h)
    · rintro (hraises | hoverflows)
      · exact check_of_raises (.inr ⟨kind, hkind⟩) hraises
      · obtain ⟨rfl, -⟩ := scalar_of_overflows hkind hoverflows.2.2
        exact (hbeside (by simp) (by simp)).mpr hoverflows
  all_goals
    rw [or_iff_right]
    · exact check_eq_error_iff calls hliteral hvalue
    · rintro ⟨matcher, hshown, -⟩
      cases hshown

end Unmatched

/-! ## The whole validation -/

section Whole

variable {calls : Interpretation} {value schema : Value} {fault : Fault}

/-- Where no matcher raises, the check is the same with answers in place of all faults. -/
theorem check_hushed (hlawful : Lawful schema) (hschema : CallsOnlyMatchers schema)
    (h : ∀ fault, ¬ Raises calls value schema fault) :
    check calls value schema = check (hushed calls) value schema := by
  apply check_congr hlawful hschema
  intro matcher hshown
  have hanswers : Answers (passesMatcher calls matcher value) := by
    cases hresult : (passesMatcher calls matcher value).result with
    | ok passed => exact ⟨passed, hresult⟩
    | error fault => exact absurd ⟨matcher, hshown, hresult⟩ (h fault)
  exact (passesMatcher_hushed hanswers).symm

theorem ComesTo.wellKeyed {q : Value × Value} (h : ComesTo calls value schema q)
    (hvalue : Value.WellKeyed value) : Value.WellKeyed q.1 := by
  have htrace : ∀ p ∈ trace value schema, Value.WellKeyed p.1 := by
    apply @forall_mem_trace fun value _ => Value.WellKeyed value
    · intro value schema h p hp
      exact wellKeyed_of_mem_children h hp
    · exact hvalue
  exact htrace q h.mem_trace

/-- What holds of a schema and all schemas nested in it holds where validation comes to. -/
theorem ComesTo.every {property : Value → Prop} {q : Value × Value}
    (h : ComesTo calls value schema q) (hschema : Every property schema) : property q.2 := by
  have htrace : ∀ p ∈ trace value schema, Every property p.2 := by
    apply @forall_mem_trace fun _ schema => Every property schema
    · intro value schema h p hp
      exact h.part (mem_parts_of_mem_children hp)
    · exact hschema
  exact (htrace q h.mem_trace).root

end Whole

/-- A fault of a matcher is what validation ends with as soon as it comes to the container that the
matcher raises on, and if it comes to none, validation is the same as with predicates that never
raise. There is none if each matcher returns on every list of an admitted length, or on every plain
record of declared keys. If matchers return at least on containers of conforming items and members,
a container on which one raises has an item or a member that does not conform. Beside the matchers,
constraints of the declared types fault only at an integer that overflows. -/
theorem validate_ends_with_matcher (calls : Interpretation) {schema : Value}
    (hlawful : Every Lawful schema) (hschema : Every CallsOnlyMatchers schema) (value : Value) :
    (∀ q fault, ComesTo calls value schema q → Raises calls q.1 q.2 fault →
      (validate calls value schema).result = .error fault) ∧
    ((∀ q fault, ComesTo calls value schema q → ¬ Raises calls q.1 q.2 fault) →
      validate calls value schema = validate (hushed calls) value schema) ∧
    (Every (HandlesShown calls) schema →
      ∀ q fault, ComesTo calls value schema q → ¬ Raises calls q.1 q.2 fault) ∧
    (Every (HandlesConforming calls) schema →
      ∀ q fault, ComesTo calls value schema q → Raises calls q.1 q.2 fault →
        ∃ child ∈ children q.1 q.2, ¬ (validate calls child.1 child.2).Passed) ∧
    ((Every fun s => Literal (unmatched s)) schema → Value.WellKeyed value →
      ∀ fault, (validate calls value schema).result = .error fault ↔
        ∃ q, ComesTo calls value schema q ∧
          (Raises calls q.1 q.2 fault ∨
            fault = .overflow .integerToDouble ∧ Overflows q.1 q.2)) := by
  refine ⟨?_, ?_, ?_, ?_, ?_⟩
  · intro q fault hq hraises
    have hfault := check_of_raises (hq.every hlawful) hraises
    exact validate_eq_error_iff.mpr ⟨q, hq, hfault⟩
  · intro hnone
    apply validate_congr
    intro q hq
    exact check_hushed (hq.every hlawful) (hq.every hschema) fun fault => hnone q fault hq
  · intro hhandles q fault hq
    exact not_raises_of_handlesShown (hq.every hhandles)
  · intro hhandles q fault hq hraises
    exact exists_unfit_of_raises (hq.every hhandles) hraises
  · intro hliteral hvalue fault
    rw [validate_eq_error_iff]
    apply exists_congr
    intro q
    apply and_congr_right
    intro hq
    exact check_error_iff_raises (hq.every hliteral) (hq.wellKeyed hvalue)

def numbersMatching (matcher : Value) : Value :=
  .complexSchema .null (.arraySchema (.str "number") .null .null .null matcher) .null .null .null
    .null (.bool false) (.bool false)

def scoresMatching (matcher : Value) : Value :=
  .complexSchema .null .null
    (.objectSchema (.dict [(.str "scores", numbersMatching matcher)]) (.bool false) .null)
    .null .null .null (.bool false) (.bool false)

def inOrder : Value := .predicate "in order" "in order" .ascending .null

def always : Value := .predicate "always" "always" .constant (.bool true)

def mixedList : Value := .list [.str "a", .int 1]

def mixedScores : Value := .dict [(.str "scores", mixedList)]

theorem every_numbersMatching {property : Value → Prop} {matcher : Value}
    (hnumbers : property (numbersMatching matcher)) (htag : property (.str "number")) :
    Every property (numbersMatching matcher) := by
  refine .intro hnumbers ?_
  intro part hpart
  have hpart : part = .str "number" := by
    simpa [numbersMatching, parts, itemTypes, declarations] using hpart
  rw [hpart]
  exact .intro htag (by simp [parts])

theorem every_scoresMatching {property : Value → Prop} {matcher : Value}
    (hscores : property (scoresMatching matcher)) (hnumbers : property (numbersMatching matcher))
    (htag : property (.str "number")) : Every property (scoresMatching matcher) := by
  refine .intro hscores ?_
  intro part hpart
  have hpart : part = numbersMatching matcher := by
    simpa [scoresMatching, parts, itemTypes, declarations, entriesOf?] using hpart
  rw [hpart]
  exact every_numbersMatching hnumbers htag

theorem children_numbersMatching (matcher : Value) {value : Value} {items : List Value}
    (hitems : value.items? = some items) :
    children value (numbersMatching matcher) = items.map (·, .str "number") := by
  have hkind : aggregation (numbersMatching matcher) = .ok .array := rfl
  obtain ⟨hnull, hmissing⟩ := not_absent_of_items hitems
  rw [numbersMatching] at hkind ⊢
  simp [children, hkind, hnull, hmissing, itemTypes, hitems]

theorem handlesConforming_tag {calls : Interpretation} :
    HandlesConforming calls (.str "number") := by
  intro matcher value hoversees
  cases hoversees

/-- Items that are numbers can be sorted. -/
theorem handlesConforming_inOrder : HandlesConforming standard (numbersMatching inOrder) := by
  intro matcher value hoversees hconforms
  obtain ⟨items, hitems, rfl⟩ : ∃ items, value.items? = some items ∧ matcher = inOrder := by
    cases hoversees with
    | list hitems => exact ⟨_, hitems, rfl⟩
  have htag : tag? (.str "number") = some .number := tag?_name .number
  have hnumbers : ∀ item ∈ items, ∃ a, item.number? = some a := by
    intro item hitem
    rw [children_numbersMatching inOrder hitems] at hconforms
    have hpassed : (validate standard item (.str "number")).Passed :=
      hconforms (item, .str "number") (List.mem_map.mpr ⟨item, hitem, rfl⟩)
    rw [validate_eq_andThen, check_of_simple standard item rfl, children_of_simple item rfl,
      Outcome.all_nil, Outcome.andThen_pure_true, Outcome.passed_pure,
      validateSimple_of_tag htag] at hpassed
    have hkind : item.kind? = some .number := of_decide_eq_true hpassed
    exact Value.number?_of_kind hkind
  obtain ⟨sorted, hsorted⟩ := Value.isSorted_of_numbers hnumbers
  have hcall : standard inOrder value = .ok (.bool sorted) := by
    simp [standard, inOrder, Action.run, Value.iterate_of_items hitems, hsorted, hitems, bind,
      Except.bind, pure, Except.pure]
  refine ⟨sorted, ?_⟩
  show (standard inOrder value).map Value.truthy = .ok sorted
  rw [hcall]
  rfl

theorem trace_mixedList (matcher : Value) :
    trace mixedList (numbersMatching matcher) =
      [(mixedList, numbersMatching matcher), (.str "a", .str "number"),
        (.int 1, .str "number")] := by
  have htag : ∀ item, trace item (.str "number") = [(item, .str "number")] :=
    fun item => trace_of_childless (children_of_simple item rfl)
  rw [trace_eq_cons, children_numbersMatching matcher rfl]
  simp [htag]

theorem trace_mixedScores (matcher : Value) :
    trace mixedScores (scoresMatching matcher) =
      (mixedScores, scoresMatching matcher) :: trace mixedList (numbersMatching matcher) := by
  have hchildren : children mixedScores (scoresMatching matcher) =
      [(mixedList, numbersMatching matcher)] := rfl
  rw [trace_eq_cons, hchildren, List.flatMap_singleton]

/-- Sorting faults on a list that the guards in front of it let through. -/
theorem inOrder_raises_on_mixedList :
    Every Lawful (numbersMatching inOrder) ∧
      Every CallsOnlyMatchers (numbersMatching inOrder) ∧
      Every (HandlesConforming standard) (numbersMatching inOrder) ∧
      ComesTo standard mixedList (numbersMatching inOrder) (mixedList, numbersMatching inOrder) ∧
      Raises standard mixedList (numbersMatching inOrder) (.type (.unordered "<" "int" "str")) ∧
      (validate standard mixedList (numbersMatching inOrder)).result =
        .error (.type (.unordered "<" "int" "str")) := by
  have hlawful : Every Lawful (numbersMatching inOrder) :=
    every_numbersMatching (.inr ⟨.array, rfl⟩) (.inl rfl)
  have hmatchers : Every CallsOnlyMatchers (numbersMatching inOrder) :=
    every_numbersMatching ⟨rfl, rfl⟩ trivial
  have hconforming : Every (HandlesConforming standard) (numbersMatching inOrder) :=
    every_numbersMatching handlesConforming_inOrder handlesConforming_tag
  refine ⟨hlawful, hmatchers, hconforming, ?_, ?_, ?_⟩
  · exact ⟨[], _, trace_mixedList inOrder, by simp⟩
  · exact ⟨inOrder, .list rfl rfl, by decide +kernel⟩
  · decide +kernel

theorem comesTo_mixedList (matcher : Value) :
    ComesTo standard mixedScores (scoresMatching matcher) (mixedList, numbersMatching matcher) := by
  have hscores : (check standard mixedScores (scoresMatching matcher)).Passed := rfl
  refine ⟨[(mixedScores, scoresMatching matcher)],
    [(.str "a", .str "number"), (.int 1, .str "number")], ?_, by simpa using hscores⟩
  rw [trace_mixedScores, trace_mixedList]
  rfl

theorem handlesShown_always : Every (HandlesShown standard) (scoresMatching always) := by
  apply every_scoresMatching
  · intro matcher value hshown
    cases hshown
    exact ⟨true, rfl⟩
  · intro matcher value hshown
    cases hshown
    exact ⟨true, rfl⟩
  · intro matcher value hshown
    cases hshown

theorem handlesConforming_scores : Every (HandlesConforming standard) (scoresMatching inOrder) := by
  apply every_scoresMatching _ handlesConforming_inOrder handlesConforming_tag
  intro matcher value hoversees hconforms
  cases hoversees
  exact ⟨true, rfl⟩

theorem literal_scoresMatching (matcher : Value) :
    Every (fun schema => Literal (unmatched schema)) (scoresMatching matcher) :=
  every_scoresMatching ⟨⟨.object, rfl⟩, rfl, rfl, rfl, rfl, rfl⟩
    ⟨⟨.array, rfl⟩, rfl, rfl, rfl, rfl, rfl⟩ rfl

theorem wellKeyed_mixedScores : Value.WellKeyed mixedScores := by
  have htext : Value.WellKeyed (.str "a") := .of_flat trivial rfl
  have hnumber : Value.WellKeyed (.int 1) := .of_flat trivial rfl
  have hlist : Value.WellKeyed mixedList :=
    .intro trivial (by simp [mixedList, Value.components, htext, hnumber])
  have hkeyed : Value.Keyed [(.str "scores", mixedList)] := by decide
  exact .intro hkeyed (by simp [mixedScores, Value.components, hlist])

theorem validate_ends_with_matcher_inOrder :
    (validate standard mixedScores (scoresMatching inOrder)).result =
        .error (.type (.unordered "<" "int" "str")) ∧
      (∃ child ∈ children mixedList (numbersMatching inOrder),
        ¬ (validate standard child.1 child.2).Passed) ∧
      validate standard mixedScores (scoresMatching always) =
        validate (hushed standard) mixedScores (scoresMatching always) ∧
      ∀ fault, (validate standard mixedScores (scoresMatching always)).result ≠ .error fault := by
  have hlawful : ∀ matcher, Every Lawful (scoresMatching matcher) := fun matcher =>
    every_scoresMatching (.inr ⟨.object, rfl⟩) (.inr ⟨.array, rfl⟩) (.inl rfl)
  have hmatchers : ∀ matcher, Every CallsOnlyMatchers (scoresMatching matcher) := fun matcher =>
    every_scoresMatching ⟨rfl, rfl⟩ ⟨rfl, rfl⟩ trivial
  have hraises : Raises standard mixedList (numbersMatching inOrder)
      (.type (.unordered "<" "int" "str")) := ⟨inOrder, .list rfl rfl, by decide +kernel⟩
  obtain ⟨hends, -, -, hunfit, -⟩ := validate_ends_with_matcher standard (hlawful inOrder)
    (hmatchers inOrder) mixedScores
  obtain ⟨-, hsame, hnone, -, hfaults⟩ := validate_ends_with_matcher standard (hlawful always)
    (hmatchers always) mixedScores
  have hquiet := hnone handlesShown_always
  refine ⟨hends _ _ (comesTo_mixedList inOrder) hraises,
    hunfit handlesConforming_scores _ _ (comesTo_mixedList inOrder) hraises, hsame hquiet, ?_⟩
  intro fault hfault
  obtain ⟨q, hq, hcause⟩ :=
    (hfaults (literal_scoresMatching always) wellKeyed_mixedScores fault).mp hfault
  have hsmall : ¬ Overflows q.1 q.2 := by
    have hmem := hq.mem_trace
    rw [trace_mixedScores, trace_mixedList] at hmem
    simp only [List.mem_cons, List.not_mem_nil, or_false] at hmem
    rcases hmem with rfl | rfl | rfl | rfl
    · exact fun h => absurd h.1 (by decide)
    · exact fun h => absurd h.1 (by decide)
    · exact id
    · exact id
  rcases hcause with hraises | ⟨-, hoverflows⟩
  · exact hquiet q fault hq hraises
  · exact hsmall hoverflows

end Conformance.Schema
