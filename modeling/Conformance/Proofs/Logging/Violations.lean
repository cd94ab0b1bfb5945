import Conformance.Proofs.Logging.Records

/-! # Violations in the log

Making a validator writes one record. Applying it writes one more only where it comes to a schema
that violates the contract; it then ends with this violation. Whatever else it ends with, an answer
or what a predicate or a comparison raises, it writes nothing. The record of a violation can always
be written, since the schema it shows is part of one that was shown when the validator was made.
-/

namespace Conformance

theorem Outcome.records_eq_nil {outcome : Outcome α} (h : outcome.Logs fun _ => False) :
    outcome.records = [] :=
  List.eq_nil_iff_forall_not_mem.mpr h.of_mem_records

namespace Schema

section Checks

variable {calls : Interpretation} {value schema : Value} {violation : ContractViolation}
  {printed : String}

theorem check_of_violates (calls : Interpretation) (value : Value)
    (h : Violates schema violation) (hshown : schema.shown = .ok printed) :
    check calls value schema =
      ⟨[.logged (violationRecord violation printed)], .error (.contract violation)⟩ := by
  obtain ⟨hsimple, hviolation⟩ := h
  obtain ⟨next, hcheck, -⟩ :=
    exists_check_eq_bind (p := fun _ => True) calls value hsimple
  rw [hcheck, inferAggregation_of_violation hviolation, hshown]
  rfl

theorem not_passed_of_violates (h : Violates schema violation) :
    ¬ (check calls value schema).Passed := by
  obtain ⟨hsimple, hviolation⟩ := h
  obtain ⟨next, hcheck, -⟩ :=
    exists_check_eq_bind (p := fun _ => True) calls value hsimple
  obtain ⟨other, hother⟩ := exists_inferAggregation_error hviolation
  rw [hcheck, Outcome.Passed, Outcome.result_bind_of_error hother]
  nofun

/-- A check writes nothing unless its schema violates the contract. -/
theorem records_check (h : ∀ violation, ¬ Violates schema violation) :
    (check calls value schema).records = [] :=
  Outcome.records_eq_nil (logs_check calls value fun violation _ hviolates _ => h violation hviolates)

theorem records_check_of_passed (h : (check calls value schema).Passed) :
    (check calls value schema).records = [] :=
  records_check fun _ hviolates => not_passed_of_violates hviolates h

end Checks

/-! ## Schemas inside one that can be written -/

theorem showsLong_of_mem_entries {entries : Value.Entries} {name part : Value}
    (h : Value.showsLongEntry entries = false) (hmem : (name, part) ∈ entries) :
    part.showsLong = false := by
  induction entries with
  | nil => cases hmem
  | cons e entries ih =>
      obtain ⟨key, value⟩ := e
      simp only [Value.showsLongEntry, Bool.or_eq_false_iff] at h
      obtain ⟨⟨-, hvalue⟩, hentries⟩ := h
      rcases List.mem_cons.mp hmem with heq | hmem
      · cases heq
        exact hvalue
      · exact ih hentries hmem

theorem showsLong_of_mem_itemTypes {array part : Value} (h : array.showsLong = false)
    (hpart : part ∈ itemTypes array) : part.showsLong = false := by
  cases array <;> simp only [itemTypes, List.mem_singleton, List.not_mem_nil] at hpart
  subst hpart
  simp only [Value.showsLong, Bool.or_eq_false_iff] at h
  exact h.1.1.1.1

theorem showsLong_of_mem_declarations {object name part : Value} (h : object.showsLong = false)
    (hpart : (name, part) ∈ declarations object) : part.showsLong = false := by
  cases object <;> simp only [declarations, List.not_mem_nil] at hpart
  case objectSchema members allowExtraMembers matcher =>
    simp only [Value.showsLong, Bool.or_eq_false_iff] at h
    have hmembers := h.1.1
    cases members <;> simp only [entriesOf?, Option.getD_none, List.not_mem_nil] at hpart
    all_goals
      rw [Value.showsLong] at hmembers
      exact showsLong_of_mem_entries hmembers hpart

theorem showsLong_of_mem_parts {schema part : Value} (h : schema.showsLong = false)
    (hpart : part ∈ parts schema) : part.showsLong = false := by
  cases schema <;> simp only [parts, List.not_mem_nil] at hpart
  case complexSchema scalar array object enumeration string number optional nullable =>
    simp only [Value.showsLong, Bool.or_eq_false_iff] at h
    obtain ⟨⟨⟨⟨⟨⟨⟨-, harray⟩, hobject⟩, -⟩, -⟩, -⟩, -⟩, -⟩ := h
    rcases List.mem_append.mp hpart with hpart | hpart
    · exact showsLong_of_mem_itemTypes harray hpart
    · obtain ⟨⟨name, declared⟩, hmem, rfl⟩ := List.mem_map.mp hpart
      exact showsLong_of_mem_declarations hobject hmem

/-- Where validation comes to, the schema can be written if the whole can. -/
theorem ComesTo.shown {calls : Interpretation} {value schema : Value} {q : Value × Value}
    (h : ComesTo calls value schema q) (hschema : schema.showsLong = false) :
    q.2.shown = .ok q.2.printed := by
  have htrace : ∀ p ∈ trace value schema, p.2.showsLong = false := by
    apply @forall_mem_trace fun _ schema => schema.showsLong = false
    · intro value schema h p hp
      exact showsLong_of_mem_parts h (mem_parts_of_mem_children hp)
    · exact hschema
  exact Value.shown_of_not_showsLong (htrace q h.mem_trace)

/-! ## One application -/

/-- Validation comes to a schema that violates the contract. -/
def BreaksOff (calls : Interpretation) (value schema part : Value)
    (violation : ContractViolation) : Prop :=
  ∃ item, ComesTo calls value schema (item, part) ∧ Violates part violation

section Applications

variable {calls : Interpretation} {value schema : Value}

theorem records_flatMap_of_passed {passed : List (Value × Value)}
    (h : ∀ q ∈ passed, (check calls q.1 q.2).Passed) (events : List Event)
    (result : Except Fault Bool) :
    Outcome.records ⟨(passed.flatMap fun q => (check calls q.1 q.2).events) ++ events, result⟩ =
      Outcome.records ⟨events, result⟩ := by
  induction passed with
  | nil => rfl
  | cons q passed ih =>
      obtain ⟨hq, hpassed⟩ := List.forall_mem_cons.mp h
      have hrecords := records_check_of_passed hq
      simp only [Outcome.records, List.flatMap_cons, List.append_assoc,
        List.filterMap_append] at ih hrecords ⊢
      rw [hrecords, List.nil_append, ih hpassed]

/-- The log of a validation is that of the check that ends it. -/
theorem ComesTo.records_validate {q : Value × Value} (h : ComesTo calls value schema q)
    (hfails : ¬ (check calls q.1 q.2).Passed) :
    (validate calls value schema).records = (check calls q.1 q.2).records := by
  obtain ⟨before, hbefore, hends⟩ := h.ends hfails
  rw [hends, records_flatMap_of_passed hbefore]

theorem BreaksOff.ends {part : Value} {violation : ContractViolation}
    (h : BreaksOff calls value schema part violation) (hschema : schema.showsLong = false) :
    ∃ printed, part.shown = .ok printed ∧
      (validate calls value schema).records = [violationRecord violation printed] ∧
      (validate calls value schema).result = .error (.contract violation) := by
  obtain ⟨item, hcomes, hviolates⟩ := h
  have hshown : part.shown = .ok part.printed := hcomes.shown hschema
  have hcheck := check_of_violates calls item hviolates hshown
  refine ⟨part.printed, hshown, ?_, ?_⟩
  · rw [hcomes.records_validate (not_passed_of_violates hviolates), hcheck]
    rfl
  · exact validate_eq_error_iff.mpr ⟨(item, part), hcomes, by rw [hcheck]⟩

theorem records_of_not_breaksOff
    (h : ∀ part violation, ¬ BreaksOff calls value schema part violation) :
    (validate calls value schema).records = [] := by
  rcases passed_or_comesTo calls value schema with hall | ⟨q, hcomes, hfails⟩
  · have hlog := records_flatMap_of_passed hall [] (.ok true)
    rw [validate_eq_all_trace, Outcome.all_of_passed hall]
    simpa [Outcome.records] using hlog
  · rw [hcomes.records_validate hfails]
    exact records_check fun violation hviolates => h q.2 violation ⟨q.1, hcomes, hviolates⟩

end Applications

/-! ## A validator and its applications -/

theorem validateEach_eq (calls : Interpretation) (schema : Value) (values : List Value) :
    validateEach calls schema values =
      ⟨values.flatMap fun value => (validate calls value schema).events,
        .ok (values.map fun value => (validate calls value schema).result)⟩ := by
  induction values with
  | nil => rfl
  | cons value values ih =>
      rw [validateEach, ih]
      rfl

theorem createAndValidate_of_showsLong {calls : Interpretation} {schema : Value}
    {values : List Value} (h : schema.showsLong = true) :
    createAndValidate calls schema values = .fail (.value .integerTooLong) := by
  rw [createAndValidate, announce, Value.shown_of_showsLong h]
  rfl

section Made

variable {schema : Value} {text : String} (h : schema.shown = .ok text) (calls : Interpretation)
  (values : List Value)

include h

theorem createAndValidate_of_shown :
    createAndValidate calls schema values =
      ⟨.logged (creationRecord text) ::
          values.flatMap fun value => (validate calls value schema).events,
        .ok (values.map fun value => (validate calls value schema).result)⟩ := by
  rw [createAndValidate, announce, h, validateEach_eq]
  rfl

theorem records_createAndValidate :
    (createAndValidate calls schema values).records =
      creationRecord text ::
        values.flatMap fun value => (validate calls value schema).records := by
  rw [createAndValidate_of_shown h]
  simp [Outcome.records, List.filterMap_flatMap]

theorem level_of_mem_createAndValidate {record : LogRecord}
    (hrecord : record ∈ (createAndValidate calls schema values).records) :
    record.level = debugLevel := by
  rw [records_createAndValidate h] at hrecord
  rcases List.mem_cons.mp hrecord with rfl | hrecord
  · rfl
  · obtain ⟨value, -, hrecord⟩ := List.mem_flatMap.mp hrecord
    have hlogs : (validate calls value schema).Logs fun record => record.level = debugLevel :=
      logs_validate calls value fun _ _ => rfl
    exact hlogs.of_mem_records record hrecord

end Made

def refusedLabel : Value :=
  .complexSchema (.str "string") .null .null .null
    (.stringSchema (.predicate "refuse" "refuse" (.fail .contract) (.str "refused"))) .null
    (.bool true) (.bool false)

def bareSchema : Value :=
  .complexSchema .null .null .null .null .null .null (.bool false) (.bool false)

def draftSchema : Value :=
  .complexSchema .null .null
    (.objectSchema (.dict [(.str "label", refusedLabel), (.str "body", bareSchema)]) (.bool false)
      .null)
    .null .null .null (.bool false) (.bool false)

theorem trace_draft (entries : Value.Entries) :
    trace (.dict entries) draftSchema =
      [(.dict entries, draftSchema), (memberValue entries (.str "label"), refusedLabel),
        (memberValue entries (.str "body"), bareSchema)] := by
  have hchildren : children (.dict entries) draftSchema =
      [(memberValue entries (.str "label"), refusedLabel),
        (memberValue entries (.str "body"), bareSchema)] := rfl
  have hlabel : ∀ value, children value refusedLabel = [] := by
    intro value
    rw [refusedLabel, children]
    split <;> rfl
  have hbody : ∀ value, children value bareSchema = [] := by
    intro value
    rw [bareSchema, children]
    split <;> rfl
  rw [trace_eq_cons, hchildren, List.flatMap_cons, List.flatMap_singleton,
    trace_of_childless (hlabel _), trace_of_childless (hbody _)]
  rfl

/-- A number with a bound that is too long to be written. -/
def longBoundSchema : Value :=
  .complexSchema (.str "number") .null .null .null .null
    (.numberSchema .null (.int (.ofNat (Nat.pow 10 digitLimit))) .null (.bool false) .null) (.bool false) (.bool false)

end Schema

end Conformance
