import Conformance.Check
import Conformance.Proofs.Schema.Trace

/-! # What is logged

Which records a computation writes is followed through its sequencing. Validation writes only the
violation that ends it; around it the search, the resolution of the reference, the loads and the
verdicts write theirs. None of them is below the level of debugging.
-/

namespace Conformance

namespace Outcome

def Logs (p : LogRecord → Prop) (outcome : Outcome α) : Prop :=
  ∀ record, Event.logged record ∈ outcome.events → p record

variable {p : LogRecord → Prop}

theorem Logs.of_mem_records {outcome : Outcome α} (h : outcome.Logs p) :
    ∀ record ∈ outcome.records, p record := by
  intro record hrecord
  obtain ⟨event, hevent, hlogged⟩ := List.mem_filterMap.1 hrecord
  cases event with
  | called label argument => cases hlogged
  | logged other =>
      cases hlogged
      exact h record hevent

theorem Logs.pure (a : α) : (pure a).Logs p := by
  intro record h
  cases h

theorem Logs.fail (fault : Fault) : (fail fault : Outcome α).Logs p := by
  intro record h
  cases h

theorem Logs.ofExcept (result : Except Fault α) : (ofExcept result).Logs p := by
  intro record h
  cases h

theorem Logs.log {record : LogRecord} (h : p record) : (log record).Logs p := by
  intro other hother
  cases List.mem_singleton.1 hother
  exact h

theorem Logs.bind {first : Outcome α} {next : α → Outcome β} (h : first.Logs p)
    (hnext : ∀ a, (next a).Logs p) : (first.bind next).Logs p := by
  intro record hrecord
  unfold Outcome.bind at hrecord
  split at hrecord
  · rcases List.mem_append.1 hrecord with hrecord | hrecord
    · exact h record hrecord
    · exact hnext _ record hrecord
  · exact h record hrecord

theorem Logs.ite {c : Prop} [Decidable c] {outcome other : Outcome α} (h : outcome.Logs p)
    (hother : other.Logs p) : (if c then outcome else other).Logs p := by
  split
  · exact h
  · exact hother

theorem Logs.andThen {first second : Outcome Bool} (h : first.Logs p) (hsecond : second.Logs p) :
    (first.andThen second).Logs p :=
  h.bind fun _ => .ite hsecond (.pure false)

theorem Logs.all {test : α → Outcome Bool} {xs : List α} (h : ∀ x ∈ xs, (test x).Logs p) :
    (all test xs).Logs p := by
  induction xs with
  | nil => exact .pure true
  | cons x xs ih =>
      obtain ⟨hx, hxs⟩ := List.forall_mem_cons.1 h
      exact hx.andThen (ih hxs)

end Outcome

open Outcome (Logs)

namespace Schema

variable {p : LogRecord → Prop} (calls : Interpretation) (value : Value)

theorem logs_callMatcher (matcher : Value) : (callMatcher calls matcher value).Logs p := by
  unfold callMatcher
  split
  · intro record h
    cases List.mem_singleton.1 h
  · exact .fail _

theorem logs_passesMatcher (matcher : Value) : (passesMatcher calls matcher value).Logs p :=
  .ite (.pure true) (logs_callMatcher calls value matcher)

theorem logs_validateString (schema : Value) : (validateString calls value schema).Logs p := by
  unfold validateString
  refine Logs.bind (.ofExcept _) fun matcher => ?_
  split
  · exact .pure true
  · exact .ofExcept _
  · split
    · exact .pure _
    · exact logs_callMatcher calls value matcher

theorem logs_validateNumber (schema : Value) : (validateNumber calls value schema).Logs p := by
  unfold validateNumber
  refine Logs.bind (.ofExcept _) fun admitted => .ite (.pure false) ?_
  refine Logs.bind (.ofExcept _) fun expected => .ite (.pure true) (.ite (.ofExcept _) ?_)
  exact logs_callMatcher calls value expected

theorem logs_validateScalar (schema : Value) : (validateScalar calls value schema).Logs p := by
  unfold validateScalar
  refine Logs.bind (.ofExcept _) fun scalar => .ite (.pure false) ?_
  dsimp only
  -- The constraints on numbers stand behind those on texts, which may be absent or left at once.
  refine .ite (.bind (.ofExcept _) fun string => .ite (logs_validateString calls value _) ?_) ?_
  all_goals
    refine .ite (.bind (.ofExcept _) fun number => ?_) (.pure true)
    exact .ite (logs_validateNumber calls value _) (.pure true)

theorem logs_checkArray (array : Value) : (checkArray calls value array).Logs p := by
  unfold checkArray
  split
  · exact .pure false
  · split
    · refine Logs.bind (.ofExcept _) fun admitted => .ite (.pure false) ?_
      exact logs_passesMatcher calls value _
    · exact .fail _

theorem logs_enumerable (members : Value) : (enumerable members).Logs p := by
  unfold enumerable
  split
  · exact .pure true
  · exact .fail _

theorem logs_checkObject (object : Value) : (checkObject calls value object).Logs p := by
  unfold checkObject
  split
  · exact .pure false
  · split
    · refine Logs.andThen ?_ (logs_enumerable _)
      have hmatcher := logs_passesMatcher (p := p) calls value
      exact .ite (.bind (.ofExcept _) fun known => .ite (.pure false) (hmatcher _)) (hmatcher _)
    · exact .fail _

theorem logs_inferAggregation {schema : Value}
    (h : ∀ violation printed, aggregation schema = .error (.contract violation) →
      schema.shown = .ok printed → p (violationRecord violation printed)) :
    (inferAggregation schema).Logs p := by
  unfold inferAggregation
  split
  · next violation hviolation =>
      cases hshown : schema.shown with
      | error fault => exact .fail fault
      | ok printed => exact (Logs.log (h violation printed hviolation hshown)).bind fun _ => .fail _
  · exact .ofExcept _

/-- A schema that is no tag violates the contract. -/
def Violates (schema : Value) (violation : ContractViolation) : Prop :=
  isSimple schema = false ∧ aggregation schema = .error (.contract violation)

/-- A schema that is no tag is checked for the contract first, and behind it nothing is logged. -/
theorem exists_check_eq_bind {schema : Value} (h : isSimple schema = false) :
    ∃ next : Aggregation → Outcome Bool,
      check calls value schema = (inferAggregation schema).bind next ∧
        ∀ kind, (next kind).Logs p := by
  cases schema
  case complexSchema =>
    refine ⟨_, rfl, fun kind => .ite (.pure _) (.ite (.pure _) ?_)⟩
    cases kind with
    | array => exact logs_checkArray calls value _
    | object => exact logs_checkObject calls value _
    | enumeration => exact .ofExcept _
    | scalar => exact logs_validateScalar calls value _
  all_goals exact ⟨fun _ => .pure true, by simp [check, h], fun _ => .pure true⟩

/-- A check can only write that the contract is violated. -/
theorem logs_check {schema : Value}
    (h : ∀ violation printed, Violates schema violation → schema.shown = .ok printed →
      p (violationRecord violation printed)) : (check calls value schema).Logs p := by
  cases hsimple : isSimple schema with
  | true =>
      rw [check_of_simple calls value hsimple]
      exact .pure _
  | false =>
      obtain ⟨next, hcheck, hnext⟩ := exists_check_eq_bind (p := p) calls value hsimple
      rw [hcheck]
      refine Logs.bind ?_ hnext
      exact logs_inferAggregation fun violation printed hviolation =>
        h violation printed ⟨hsimple, hviolation⟩

/-- Whatever validation writes is a violation by the schema or by one nested in it. -/
theorem logs_validate {schema : Value}
    (h : ∀ violation printed, p (violationRecord violation printed)) :
    (validate calls value schema).Logs p := by
  rw [validate_eq_all_trace]
  exact .all fun q _ => logs_check calls q.1 fun violation printed _ _ => h violation printed

end Schema

/-! ## Around validation -/

/-- A record that no handler leaves out for being below the level of debugging. -/
def LogRecord.Graded (record : LogRecord) : Prop := Logging.debug ≤ record.level

theorem graded_debug (logger text : String) :
    LogRecord.Graded ⟨Schema.debugLevel, logger, text⟩ :=
  Int.le_refl _

theorem Schema.graded_validate (calls : Interpretation) (value schema : Value) :
    (Schema.validate calls value schema).Logs LogRecord.Graded :=
  logs_validate calls value fun _ _ => graded_debug _ _

theorem Schema.graded_announce (schema : Value) :
    (Schema.announce schema).Logs LogRecord.Graded :=
  .bind (.ofExcept _) fun _ => .log (graded_debug _ _)

theorem Reference.graded_resolve (modules : Modules) (reference : Value) :
    (Reference.resolve modules reference).Logs LogRecord.Graded := by
  unfold Reference.resolve
  split
  · unfold Reference.resolveText
    split
    · exact .fail _
    · refine .ite (.fail _) (.bind (.ofExcept _) fun attributes => ?_)
      split
      · exact .fail _
      · exact .ite (.bind (.log (graded_debug _ _)) fun _ => .pure _) (.fail _)
  · exact .bind (.ofExcept _) fun _ => .fail _

theorem Loader.graded_load (loader : Loader) (files : Files.System) (path : Files.Path) :
    (loader.load files path).1.Logs LogRecord.Graded := by
  have hannounce : ∀ text, (announce text).Logs LogRecord.Graded :=
    fun text => .log (graded_debug _ _)
  unfold Loader.load
  split
  · exact .fail _
  · split
    · exact (hannounce _).bind fun _ => .pure _
    · dsimp only
      split
      · exact (hannounce _).bind fun _ => .ofExcept _
      · exact (hannounce _).bind fun _ => .ofExcept _

namespace Check

open Files (System Path)

variable (calls : Interpretation) (files : System)

theorem graded_judge (schema : Value) (document : Path) (value : Value) :
    (judge calls schema document value).Logs LogRecord.Graded := by
  refine (Schema.graded_validate calls value schema).bind fun valid => ?_
  exact .bind (.log (show Logging.debug ≤ Logging.info by decide)) fun _ => .pure _

theorem graded_checkDocument (schema : Value) (loader : Loader) (document : Path) :
    (checkDocument calls files schema loader document).1.Logs LogRecord.Graded := by
  have hload := loader.graded_load files document
  unfold checkDocument
  dsimp only
  split
  · intro record hrecord
    rcases List.mem_append.1 hrecord with hrecord | hrecord
    · exact hload record hrecord
    · exact graded_judge calls schema document _ record hrecord
  · exact hload
  · exact hload

theorem graded_checkEach (schema : Value) (loader : Loader) (documents : List Path) :
    (checkEach calls files schema loader documents).1.Logs LogRecord.Graded := by
  induction documents generalizing loader with
  | nil => exact .pure []
  | cons document rest ih =>
      have hfirst := graded_checkDocument calls files schema loader document
      unfold checkEach
      dsimp only
      split
      · exact hfirst.bind fun _ => .pure []
      · exact hfirst.bind fun _ => (ih _).bind fun _ => .pure _

theorem graded_checkDocuments (modules : Modules) (loader : Loader) (documents : List Path)
    (reference : Value) :
    (checkDocuments calls files modules loader documents reference).1.Logs LogRecord.Graded := by
  have hschema : (schemaOf modules reference).Logs LogRecord.Graded :=
    (Reference.graded_resolve modules reference).bind fun schema =>
      (Schema.graded_announce schema).bind fun _ => .pure schema
  unfold checkDocuments
  dsimp only
  split
  · exact hschema.bind fun _ => .pure []
  · exact hschema.bind fun _ => graded_checkEach calls files _ loader documents

theorem graded_documentsAt (path : Path) : (documentsAt files path).Logs LogRecord.Graded := by
  have hwarn : ∀ text, (warn text).Logs LogRecord.Graded :=
    fun text => .log (show Logging.debug ≤ Logging.warning by decide)
  unfold documentsAt
  refine Logs.bind (.ofExcept _) fun found => ?_
  split
  · exact (hwarn _).bind fun _ => .pure []
  · exact .pure _
  · exact .pure _
  · exact .pure _
  · exact (hwarn _).bind fun _ => .pure []

theorem graded_findDocuments (paths : List Path) :
    (findDocuments files paths).Logs LogRecord.Graded := by
  refine Logs.bind ?_ fun _ => .pure _
  induction paths with
  | nil => exact .pure []
  | cons path rest ih =>
      exact (graded_documentsAt files path).bind fun _ => ih.bind fun _ => .pure _

end Check

end Conformance
