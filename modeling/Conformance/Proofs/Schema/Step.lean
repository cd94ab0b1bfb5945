import Conformance.Proofs.Outcome
import Conformance.Schema.Validation

/-! # One layer of validation

A schema asks something of the value itself, without looking further down (`check`), and hands the
items or members of the value to the schemas nested in it (`children`). Validation is the check
followed by the validation of the children in order (`validate_eq_andThen`). The nested schemas of
a schema are its `parts`; recursion along them ends.
-/

namespace Conformance.Schema

/-- The schema of the items, if the field of an array holds one. -/
def itemTypes : Value → List Value
  | .arraySchema itemType _ _ _ _ => [itemType]
  | _ => []

/-- The entries of a mapping from names to schemas. -/
def entriesOf? : Value → Option Value.Entries
  | .dict entries | .orderedDict entries => some entries
  | _ => none

/-- The declared members, if the field of an object declares any. -/
def declarations : Value → Value.Entries
  | .objectSchema members _ _ => (entriesOf? members).getD []
  | _ => []

/-- The schemas directly inside a schema. -/
def parts : Value → List Value
  | .complexSchema _ array object _ _ _ _ _ =>
    itemTypes array ++ (declarations object).map (·.2)
  | _ => []

theorem sizeOf_lt_of_mem_itemTypes {array part : Value} (h : part ∈ itemTypes array) :
    sizeOf part < sizeOf array := by
  cases array <;> simp only [itemTypes, List.mem_singleton, List.not_mem_nil] at h
  subst h
  simp only [Value.arraySchema.sizeOf_spec]
  omega

theorem sizeOf_lt_of_mem_entriesOf {members name part : Value} {entries : Value.Entries}
    (hentries : entriesOf? members = some entries) (h : (name, part) ∈ entries) :
    sizeOf part < sizeOf members := by
  have hlt := List.sizeOf_lt_of_mem h
  cases members <;> simp only [entriesOf?, Option.some.injEq, reduceCtorEq] at hentries
  all_goals
    subst hentries
    simp only [Prod.mk.sizeOf_spec, Value.dict.sizeOf_spec, Value.orderedDict.sizeOf_spec] at hlt ⊢
    omega

theorem sizeOf_lt_of_mem_declarations {object name part : Value}
    (h : (name, part) ∈ declarations object) : sizeOf part < sizeOf object := by
  cases object <;> simp only [declarations, List.not_mem_nil] at h
  case objectSchema members allowExtraMembers matcher =>
    cases hentries : entriesOf? members with
    | none => simp [hentries] at h
    | some entries =>
        have hlt := sizeOf_lt_of_mem_entriesOf hentries (by simpa [hentries] using h)
        simp only [Value.objectSchema.sizeOf_spec]
        omega

theorem sizeOf_lt_of_mem_parts {schema part : Value} (h : part ∈ parts schema) :
    sizeOf part < sizeOf schema := by
  cases schema <;> simp only [parts, List.not_mem_nil] at h
  rcases List.mem_append.mp h with h | h
  · have hlt := sizeOf_lt_of_mem_itemTypes h
    simp only [Value.complexSchema.sizeOf_spec]
    omega
  · obtain ⟨⟨name, schema⟩, hmem, rfl⟩ := List.mem_map.mp h
    have hlt := sizeOf_lt_of_mem_declarations hmem
    simp only [Value.complexSchema.sizeOf_spec]
    omega

/-- What holds of a schema once it holds of its parts holds of every schema. -/
theorem induction_on_parts {motive : Value → Prop}
    (step : ∀ schema, (∀ part ∈ parts schema, motive part) → motive schema) (schema : Value) :
    motive schema :=
  step schema fun part _ => induction_on_parts step part
termination_by sizeOf schema
decreasing_by exact sizeOf_lt_of_mem_parts ‹_›

/-- A property of a schema and of every schema nested in it. -/
inductive Every (property : Value → Prop) : Value → Prop
  | intro {schema : Value} (root : property schema)
      (nested : ∀ part ∈ parts schema, Every property part) : Every property schema

theorem Every.root {property : Value → Prop} {schema : Value} (h : Every property schema) :
    property schema := by
  cases h with
  | intro root nested => exact root

theorem Every.part {property : Value → Prop} {schema part : Value} (h : Every property schema)
    (hpart : part ∈ parts schema) : Every property part := by
  cases h with
  | intro root nested => exact nested part hpart

/-! ## Checks and children -/

/-- What an array asks of a value before its items. -/
def checkArray (calls : Interpretation) (value array : Value) : Outcome Bool :=
  match value.items? with
  | none => pure false
  | some items =>
    match array with
    | .arraySchema _ length minLength maxLength matcher =>
      admitsArray calls value items.length length minLength maxLength matcher
    | _ => .fail (.noAttribute array.typeLabel "length")

/-- The members of a record can be gone through only if they are a mapping. -/
def enumerable (members : Value) : Outcome Bool :=
  match entriesOf? members with
  | some _ => pure true
  | none => .fail (.noAttribute members.typeLabel "items")

def checkObject (calls : Interpretation) (value object : Value) : Outcome Bool :=
  match value.entries? with
  | none => pure false
  | some entries =>
    match object with
    | .objectSchema members allowExtraMembers matcher =>
      (admitsObject calls value entries members allowExtraMembers matcher).andThen
        (enumerable members)
    | _ => .fail (.noAttribute object.typeLabel "members")

/-- What a schema asks of a value itself: the kind for a tag; else the contract of the schema,
whether nothing may stand for the value, and what the represented aggregation asks. -/
def check (calls : Interpretation) (value schema : Value) : Outcome Bool :=
  match schema with
  | .complexSchema scalar array object enumeration string number optional nullable =>
    let whole := Value.complexSchema scalar array object enumeration string number optional nullable
    (inferAggregation whole).bind fun aggregation =>
      if value.isNull then pure nullable.isTrue
      else if value.isMissing then pure optional.isTrue
      else
        match aggregation with
        | .array => checkArray calls value array
        | .object => checkObject calls value object
        | .enumeration => .ofExcept (validateEnum value enumeration)
        | .scalar => validateScalar calls value whole
  | schema =>
    if isSimple schema then pure (validateSimple value schema)
    else (inferAggregation schema).bind fun _ => pure true

theorem check_of_simple (calls : Interpretation) (value : Value) {schema : Value}
    (h : isSimple schema = true) :
    check calls value schema = .pure (validateSimple value schema) := by
  cases schema
  case complexSchema => cases h
  all_goals simp [check, h]

/-- The parts of a value that a schema hands on, each with the schema it is handed to. -/
def children (value schema : Value) : List (Value × Value) :=
  match schema with
  | .complexSchema _ array object _ _ _ _ _ =>
    if value.isNull || value.isMissing then []
    else
      match aggregation schema with
      | .ok .array =>
        (itemTypes array).flatMap fun itemType => (value.items?.getD []).map (·, itemType)
      | .ok .object =>
        match value.entries? with
        | some entries =>
          (declarations object).map fun (name, part) => (memberValue entries name, part)
        | none => []
      | _ => []
  | _ => []

/-- A schema hands its parts on, each with an item or with what a record has for a name. -/
theorem mem_children {value schema : Value} {q : Value × Value}
    (h : q ∈ children value schema) :
    q.2 ∈ parts schema ∧
      ((∃ items, value.items? = some items ∧ q.1 ∈ items) ∨
        ∃ entries name, value.entries? = some entries ∧ q.1 = memberValue entries name) := by
  cases schema <;> simp only [children, List.not_mem_nil] at h
  case complexSchema scalar array object enumeration string number optional nullable =>
    simp only [parts, List.mem_append]
    split at h
    · simp at h
    · split at h
      · obtain ⟨itemType, hitem, hq⟩ := List.mem_flatMap.mp h
        obtain ⟨item, hmem, rfl⟩ := List.mem_map.mp hq
        refine ⟨.inl hitem, .inl ?_⟩
        cases hitems : value.items? with
        | none => simp [hitems] at hmem
        | some items => exact ⟨items, rfl, by simpa [hitems] using hmem⟩
      · split at h
        · next entries hentries =>
            obtain ⟨⟨name, part⟩, hmem, rfl⟩ := List.mem_map.mp h
            refine ⟨.inr ?_, .inr ⟨entries, name, hentries, rfl⟩⟩
            exact List.mem_map.mpr ⟨(name, part), hmem, rfl⟩
        · simp at h
      · simp at h

theorem mem_parts_of_mem_children {value schema : Value} {q : Value × Value}
    (h : q ∈ children value schema) : q.2 ∈ parts schema := (mem_children h).1

/-! ## The step of validation -/

theorem inferAggregation_of_ok {schema : Value} {kind : Aggregation}
    (h : aggregation schema = .ok kind) : inferAggregation schema = .pure kind := by
  simp [inferAggregation, h, Outcome.pure]

theorem inferAggregation_of_violation {schema : Value} {violation : ContractViolation}
    (h : aggregation schema = .error (.contract violation)) :
    inferAggregation schema =
      (Outcome.ofExcept schema.shown).bind fun printed =>
        ⟨[.logged (violationRecord violation printed)], .error (.contract violation)⟩ := by
  rw [inferAggregation, h]
  rfl

/-- What ends a schema's aggregation: its violation, unless the schema cannot be written. -/
theorem result_inferAggregation (schema : Value) :
    (inferAggregation schema).result =
      match aggregation schema with
      | .error (.contract violation) => schema.shown >>= fun _ => .error (.contract violation)
      | result => result := by
  cases h : aggregation schema with
  | ok kind => rw [inferAggregation_of_ok h]; rfl
  | error fault =>
      cases fault
      case contract violation =>
        rw [inferAggregation_of_violation h, Outcome.result_bind]
        rfl
      all_goals
        rw [inferAggregation, h]
        rfl

/-- Two schemas of which both or neither can be written end alike when they represent the same. -/
theorem result_inferAggregation_congr {schema other : Value}
    (h : aggregation schema = aggregation other) (hshown : schema.showsLong = other.showsLong) :
    (inferAggregation schema).result = (inferAggregation other).result := by
  rw [result_inferAggregation, result_inferAggregation, h, Value.shown, Value.shown, hshown]
  cases other.showsLong <;> rfl

theorem result_inferAggregation_of_shown {schema : Value} {printed : String}
    (h : schema.shown = .ok printed) :
    (inferAggregation schema).result = aggregation schema := by
  rw [result_inferAggregation, h]
  split
  · next hviolation => exact hviolation.symm
  · rfl

theorem inferAggregation_eq_ok_iff {schema : Value} {kind : Aggregation} :
    (inferAggregation schema).result = .ok kind ↔ aggregation schema = .ok kind := by
  rw [result_inferAggregation]
  split
  · next hviolation =>
      rw [hviolation]
      cases schema.shown <;> simp [bind, Except.bind]
  · rfl

theorem exists_inferAggregation_error {schema : Value} {fault : Fault}
    (h : aggregation schema = .error fault) :
    ∃ other, (inferAggregation schema).result = .error other := by
  cases hinfer : (inferAggregation schema).result with
  | ok kind =>
      rw [inferAggregation_eq_ok_iff.mp hinfer] at h
      cases h
  | error other => exact ⟨other, rfl⟩

/-- Telling what a schema represents calls no predicate. -/
theorem calls_inferAggregation (schema : Value) : (inferAggregation schema).calls = [] := by
  cases h : aggregation schema with
  | ok kind => rw [inferAggregation_of_ok h]; rfl
  | error fault =>
      cases fault
      case contract violation =>
        rw [inferAggregation_of_violation h]
        cases schema.shown <;> rfl
      all_goals
        rw [inferAggregation, h]
        rfl

theorem validateEntries_eq_all (calls : Interpretation) (entries declared : Value.Entries) :
    validateEntries calls entries declared =
      Outcome.all (fun (name, part) => validate calls (memberValue entries name) part)
        declared := by
  induction declared with
  | nil =>
      rw [validateEntries]
      rfl
  | cons e declared ih =>
      obtain ⟨name, part⟩ := e
      rw [validateEntries, ih]
      rfl

theorem validateMembers_eq_andThen (calls : Interpretation) (entries : Value.Entries)
    (members : Value) :
    validateMembers calls entries members =
      (enumerable members).andThen
        (Outcome.all (fun (name, part) => validate calls (memberValue entries name) part)
          ((entriesOf? members).getD [])) := by
  cases members <;> rw [validateMembers]
  case dict declared => exact validateEntries_eq_all calls entries declared
  case orderedDict declared => exact validateEntries_eq_all calls entries declared
  all_goals first | rfl | simp

theorem validateArray_eq_andThen (calls : Interpretation) (value array : Value) :
    validateArray calls value array =
      (checkArray calls value array).andThen
        (Outcome.all (fun q => validate calls q.1 q.2)
          ((itemTypes array).flatMap fun itemType => (value.items?.getD []).map (·, itemType))) := by
  cases hitems : value.items? with
  | none => cases array <;> simp [validateArray, checkArray, hitems, Outcome.andThen]
  | some items =>
      cases array <;> simp only [validateArray, checkArray, hitems]
      case arraySchema itemType length minLength maxLength matcher =>
        simp only [Outcome.bind_eq_bind, Outcome.pure_eq_pure, Outcome.bind_return_false, itemTypes,
          List.flatMap_cons, List.flatMap_nil, List.append_nil, Option.getD_some,
          Outcome.all_map]
      all_goals rfl

theorem validateObject_eq_andThen (calls : Interpretation) (value object : Value) :
    validateObject calls value object =
      (checkObject calls value object).andThen
        (Outcome.all (fun q => validate calls q.1 q.2)
          (match value.entries? with
            | some entries =>
              (declarations object).map fun (name, part) => (memberValue entries name, part)
            | none => [])) := by
  cases hentries : value.entries? with
  | none => cases object <;> simp [validateObject, checkObject, hentries, Outcome.andThen]
  | some entries =>
      cases object <;> simp only [validateObject, checkObject, hentries]
      case objectSchema members allowExtraMembers matcher =>
        simp only [Outcome.bind_eq_bind, Outcome.pure_eq_pure, Outcome.bind_return_false, declarations,
          validateMembers_eq_andThen, Outcome.andThen_assoc, Outcome.all_map]
      all_goals rfl

/-- Validation is the check of the schema itself, then the validation of the children in order. -/
theorem validate_eq_andThen (calls : Interpretation) (value schema : Value) :
    validate calls value schema =
      (check calls value schema).andThen
        (Outcome.all (fun q => validate calls q.1 q.2) (children value schema)) := by
  cases schema
  case complexSchema scalar array object enumeration string number optional nullable =>
    simp only [validate, check, children]
    cases hkind : aggregation
        (.complexSchema scalar array object enumeration string number optional nullable) with
    | error fault =>
        obtain ⟨other, hfault⟩ := exists_inferAggregation_error hkind
        have hcheck := Outcome.result_bind_of_error hfault (β := Bool)
        rw [Outcome.andThen_of_not_passed (by simp [Outcome.Passed, hcheck])]
        exact Outcome.bind_of_error hfault _ _
    | ok kind =>
        simp only [inferAggregation_of_ok hkind, Outcome.bind_eq_bind, Outcome.bind_pure_left]
        by_cases hnull : value.isNull
        · simp [hnull]
        by_cases hmissing : value.isMissing
        · simp [hnull, hmissing]
        cases kind with
        | array => simpa [hnull, hmissing] using validateArray_eq_andThen calls value array
        | object => simpa [hnull, hmissing] using validateObject_eq_andThen calls value object
        | enumeration => simp [hnull, hmissing]
        | scalar => simp [hnull, hmissing]
  all_goals simp [validate, check, children]

end Conformance.Schema
