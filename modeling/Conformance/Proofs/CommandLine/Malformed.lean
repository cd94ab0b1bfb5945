import Conformance.Proofs.CommandLine.Status
import Conformance.Proofs.Schema.Step

/-! # Runs with a malformed schema

The contract of a schema is read when a document is validated, not before. So a document that
cannot be loaded hides that the schema is malformed: the run goes on to the next, and if no
document can be loaded it reports their failures and ends with the status of failure. Only a schema that
cannot be written ends the run before any document is looked at.
-/

namespace Conformance

open Files (Path)

namespace Check

variable {calls : Interpretation} {schema value : Value} {document : Path} {fault : Fault}
  {loaded : Except Fault Value}

section Malformed

variable (hshown : schema.showsLong = false) (hstructured : Schema.isSimple schema = false)
  (hmalformed : Schema.aggregation schema = .error fault)

include hshown hstructured hmalformed

/-- A schema that is no tag and whose contract fails validates nothing. -/
theorem result_validate_of_malformed (value : Value) :
    (Schema.validate calls value schema).result = .error fault := by
  have hinfer : (Schema.inferAggregation schema).result = .error fault := by
    rw [Schema.result_inferAggregation_of_shown (Value.shown_of_not_showsLong hshown), hmalformed]
  have hcheck : (Schema.check calls value schema).result = .error fault := by
    cases schema
    case complexSchema => exact Outcome.result_bind_of_error hinfer _
    all_goals
      simp only [Schema.check, hstructured, Bool.false_eq_true, if_false]
      exact Outcome.result_bind_of_error hinfer _
  rw [Schema.validate_eq_andThen, Outcome.andThen]
  exact Outcome.result_bind_of_error hcheck _

theorem verdict_of_malformed : verdict calls schema document (.ok value) = .error fault :=
  Outcome.result_bind_of_error
    (result_validate_of_malformed hshown hstructured hmalformed value) _

/-- Against a malformed schema only what cannot be loaded has a result, and it does not pass. -/
theorem verdict_eq_ok_iff_of_malformed :
    (∃ result, verdict calls schema document loaded = .ok result) ↔
      ∃ cause, loaded = .error (.document cause) := by
  cases loaded with
  | ok value => simp [verdict_of_malformed hshown hstructured hmalformed]
  | error other =>
      unfold verdict
      cases other <;> simp

theorem verdict_eq_error_iff_of_malformed {other : Fault} :
    verdict calls schema document loaded = .error other ↔
      (other = fault ∧ ∃ value, loaded = .ok value) ∨
        loaded = .error other ∧ ¬ ∃ cause, other = .document cause := by
  cases loaded with
  | ok value => simp [verdict_of_malformed hshown hstructured hmalformed, eq_comm]
  | error stop =>
      unfold verdict
      cases stop <;> cases other <;> simp

end Malformed

theorem not_passed_of_verdict_error {result : CheckResult}
    (h : verdict calls schema document (.error fault) = .ok result) : result.passed = false := by
  unfold verdict at h
  split at h
  · contradiction
  · cases h
    rfl
  · cases h

end Check

namespace CommandLine

variable {calls : Interpretation} {surroundings : Surroundings} {arguments : Arguments}
  {documents : List Path}

/-! ## Runs that find documents -/

theorem fst_report_of_agrees {results : List CheckResult}
    (h : Report.Agrees arguments.schema results) :
    (report arguments results).1 =
      .exit (if results.all (·.passed) then passedStatus else failedStatus) := by
  obtain ⟨text, -, -, hjson, -⟩ := h.counted
  have hrender : ∃ text, Report.render (arguments.format.getD .human) arguments.schema results =
      .ok text := by
    cases arguments.format.getD .human with
    | human => exact ⟨_, h.human⟩
    | json => exact ⟨text, hjson⟩
    | annotations => exact ⟨_, h.annotations⟩
  obtain ⟨shown, hshown⟩ := hrender
  rw [report, hshown]

/-- A run that finds documents ends as their check does. -/
theorem ending_of_found (hfind : (surroundings.find arguments).result = .ok documents)
    (hne : documents ≠ []) :
    (runCheck calls surroundings arguments).ending =
      match (surroundings.check calls arguments documents).1.result with
      | .error fault => if isUsage fault then .exit usageStatus else .fault fault
      | .ok results =>
        .exit (if results.all (·.passed) then passedStatus else failedStatus) := by
  obtain ⟨ending, text, notice, loader, hcourse, hrun⟩ :=
    exists_course calls surroundings arguments
  rw [hrun, conclude]
  cases hcourse with
  | lost hother =>
      rw [hfind] at hother
      cases hother
  | nothing hother =>
      rw [hfind] at hother
      cases hother
      exact absurd rfl hne
  | refused hother _ hcheck husage =>
      cases hfind.symm.trans hother
      rw [hcheck]
      exact (if_pos husage).symm
  | broken hother _ hcheck husage =>
      cases hfind.symm.trans hother
      rw [hcheck]
      exact (if_neg (Bool.eq_false_iff.1 husage)).symm
  | reported hother _ hcheck =>
      cases hfind.symm.trans hother
      rw [hcheck]
      have hagrees := Report.agrees_of_decided
        (Check.decided_of_settles (Check.settles_of_checkDocuments _ _ _ _ hcheck))
        arguments.schema
      exact fst_report_of_agrees hagrees

theorem ending_eq_usage_iff (hfind : (surroundings.find arguments).result = .ok documents)
    (hne : documents ≠ []) :
    (runCheck calls surroundings arguments).ending = .exit usageStatus ↔
      ∃ fault, (surroundings.check calls arguments documents).1.result = .error fault ∧
        isUsage fault = true := by
  rw [ending_of_found hfind hne]
  cases (surroundings.check calls arguments documents).1.result with
  | error fault =>
      dsimp only
      split <;> simp [*]
  | ok results =>
      dsimp only
      split <;> simp [usageStatus, passedStatus, failedStatus]

theorem ending_eq_fault_iff (hfind : (surroundings.find arguments).result = .ok documents)
    (hne : documents ≠ []) {fault : Fault} :
    (runCheck calls surroundings arguments).ending = .fault fault ↔
      (surroundings.check calls arguments documents).1.result = .error fault ∧
        isUsage fault = false := by
  rw [ending_of_found hfind hne]
  cases (surroundings.check calls arguments documents).1.result with
  | error other =>
      dsimp only
      rw [Except.error.injEq]
      split
      · rename_i husage
        simp only [reduceCtorEq, false_iff, not_and]
        rintro rfl
        simp [husage]
      · rename_i husage
        rw [Ending.fault.injEq]
        exact ⟨fun h => ⟨h, h ▸ Bool.eq_false_iff.2 husage⟩, And.left⟩
  | ok results => simp

theorem ending_eq_failed_iff (hfind : (surroundings.find arguments).result = .ok documents)
    (hne : documents ≠ []) :
    (runCheck calls surroundings arguments).ending = .exit failedStatus ↔
      ∃ results, (surroundings.check calls arguments documents).1.result = .ok results ∧
        ∃ result ∈ results, result.passed = false := by
  rw [ending_of_found hfind hne]
  cases (surroundings.check calls arguments documents).1.result with
  | error fault =>
      dsimp only
      split <;> simp [usageStatus, failedStatus]
  | ok results =>
      dsimp only
      split <;> simp_all [passedStatus, failedStatus]

/-! ## Runs with a malformed schema -/

def Surroundings.load (surroundings : Surroundings) (document : Path) : Except Fault Value :=
  (surroundings.loader.load surroundings.files document).1.result

def Surroundings.Unreadable (surroundings : Surroundings) (document : Path) : Prop :=
  ∃ cause, surroundings.load document = .error (.document cause)

/-- What the first document gives that is not unreadable. -/
def Surroundings.Meets (surroundings : Surroundings) (documents : List Path)
    (loaded : Except Fault Value) : Prop :=
  ∃ before document after, documents = before ++ document :: after ∧
    (∀ earlier ∈ before, surroundings.Unreadable earlier) ∧
    ¬ surroundings.Unreadable document ∧ surroundings.load document = loaded

section Malformed

variable {schema : Value} {fault : Fault}

section Resolved

variable (hresolve : (Reference.resolve surroundings.modules (.str arguments.schema)).result =
  .ok schema)

include hresolve

/-- For a schema that cannot be written there is no validator, so no document is looked at. -/
theorem result_check_of_showsLong (hlong : schema.showsLong = true) (documents : List Path) :
    (surroundings.check calls arguments documents).1.result =
      .error (.value .integerTooLong) := by
  rw [Surroundings.check, Check.result_checkDocuments, Check.schemaOf, Outcome.bind_eq_bind,
    Outcome.result_bind_of_ok hresolve, Schema.announce, Value.shown_of_showsLong hlong]
  rfl

variable (hshown : schema.showsLong = false)

include hshown

theorem result_check_of_shown (documents : List Path) :
    (surroundings.check calls arguments documents).1.result =
      documents.mapM fun document =>
        Check.verdict calls schema document (surroundings.load document) := by
  rw [Surroundings.check, Check.result_checkDocuments, Check.schemaOf, Outcome.bind_eq_bind,
    Outcome.result_bind_of_ok hresolve, Schema.announce, Value.shown_of_not_showsLong hshown]
  rfl

variable (hstructured : Schema.isSimple schema = false)
  (hmalformed : Schema.aggregation schema = .error fault)

include hstructured hmalformed

/-- A check against a malformed schema goes on over what is unreadable. -/
theorem check_eq_error_iff_of_malformed {other : Fault} :
    (surroundings.check calls arguments documents).1.result = .error other ↔
      (other = fault ∧ ∃ value, surroundings.Meets documents (.ok value)) ∨
        surroundings.Meets documents (.error other) := by
  simp only [result_check_of_shown hresolve hshown, mapM_eq_error_iff,
    Check.verdict_eq_ok_iff_of_malformed hshown hstructured hmalformed,
    Check.verdict_eq_error_iff_of_malformed hshown hstructured hmalformed]
  constructor
  · rintro ⟨before, document, after, hsplit, hbefore, ⟨rfl, value, hload⟩ | ⟨hload, hother⟩⟩
    · refine .inl ⟨rfl, value, before, document, after, hsplit, hbefore, ?_, hload⟩
      simp [Surroundings.Unreadable, hload]
    · refine .inr ⟨before, document, after, hsplit, hbefore, ?_, hload⟩
      simpa [Surroundings.Unreadable, hload] using hother
  · rintro (⟨rfl, value, before, document, after, hsplit, hbefore, -, hload⟩ |
      ⟨before, document, after, hsplit, hbefore, hread, hload⟩)
    · exact ⟨before, document, after, hsplit, hbefore, .inl ⟨rfl, value, hload⟩⟩
    · refine ⟨before, document, after, hsplit, hbefore, .inr ⟨hload, ?_⟩⟩
      simpa [Surroundings.Unreadable, hload] using hread

/-- A check against a malformed schema gives results only if nothing can be loaded; all of them
are failures. -/
theorem check_eq_ok_iff_of_malformed (hne : documents ≠ []) :
    (∃ results, (surroundings.check calls arguments documents).1.result = .ok results ∧
        ∃ result ∈ results, result.passed = false) ↔
      ∀ document ∈ documents, surroundings.Unreadable document := by
  have hverdicts : ∀ document : Path,
      (∃ result, Check.verdict calls schema document (surroundings.load document) = .ok result) ↔
        surroundings.Unreadable document :=
    fun document => Check.verdict_eq_ok_iff_of_malformed hshown hstructured hmalformed
  rw [result_check_of_shown hresolve hshown]
  constructor
  · rintro ⟨results, hresults, -⟩ document hmem
    obtain ⟨result, -, hresult⟩ := exists_mem_of_mapM_eq_ok hresults hmem
    exact (hverdicts document).1 ⟨result, hresult⟩
  · intro hall
    cases hresults : documents.mapM fun document =>
        Check.verdict calls schema document (surroundings.load document) with
    | error other =>
        obtain ⟨before, document, after, rfl, -, hverdict⟩ := mapM_eq_error_iff.1 hresults
        obtain ⟨result, hresult⟩ := (hverdicts document).2 (hall document (by simp))
        rw [hverdict] at hresult
        cases hresult
    | ok results =>
        obtain ⟨document, hmem⟩ := List.exists_mem_of_ne_nil documents hne
        obtain ⟨result, hresult, hverdict⟩ := exists_mem_of_mapM_eq_ok hresults hmem
        obtain ⟨cause, hload⟩ := hall document hmem
        rw [hload] at hverdict
        exact ⟨results, rfl, result, hresult, Check.not_passed_of_verdict_error hverdict⟩

end Resolved

theorem isUsage_eq_false_of_foreign {fault : Fault}
    (h : fault.category.covered .library = false) : isUsage fault = false := by
  unfold isUsage
  generalize fault.category = category at h ⊢
  cases category <;> first | rfl | cases h

/-- What escapes a load is nothing that the user can mend. -/
theorem isUsage_eq_false_of_meets (hreaders : surroundings.loader.readers.Lawful) {other : Fault}
    (h : surroundings.Meets documents (.error other)) : isUsage other = false := by
  obtain ⟨-, document, -, -, -, hread, hload⟩ := h
  have hends := Loader.ends_load surroundings.loader surroundings.files document
  rw [← Surroundings.load, hload] at hends
  rcases hends.of_error with ⟨cause, rfl⟩ | hescape
  · exact absurd ⟨cause, hload⟩ hread
  · exact isUsage_eq_false_of_foreign (hescape.foreign hreaders)

variable (calls surroundings)

/-- A run with a malformed schema that finds documents ends with the status of misuse exactly if a
document can be loaded and only unreadable ones come before it, as far as the violation is one that
the user can mend. It ends with the status of failure exactly if all documents are unreadable. A
fault leaves it that escapes the load of a document behind unreadable ones, and else only a
violation that is no misuse. Whatever the documents are, a schema that shows an integer that is too
long ends the run with the fault of that integer. -/
theorem run_malformed (hreaders : surroundings.loader.readers.Lawful) {words : List String}
    {arguments : Arguments} {documents : List Path} {schema : Value} {fault : Fault}
    (hread : read surroundings.settings words = .ok (.check arguments))
    (hfind : (surroundings.find arguments).result = .ok documents) (hne : documents ≠ [])
    (hresolve : (Reference.resolve surroundings.modules (.str arguments.schema)).result =
      .ok schema)
    (hstructured : Schema.isSimple schema = false)
    (hmalformed : Schema.aggregation schema = .error fault) :
    let ending := (run calls surroundings words).ending
    (schema.showsLong = true → ending = .fault (.value .integerTooLong)) ∧
    (schema.showsLong = false →
      (ending = .exit usageStatus ↔
          isUsage fault = true ∧ ∃ value, surroundings.Meets documents (.ok value)) ∧
        (ending = .exit failedStatus ↔
          ∀ document ∈ documents, surroundings.Unreadable document) ∧
        ∀ other, ending = .fault other ↔
          surroundings.Meets documents (.error other) ∨
            isUsage fault = false ∧ other = fault ∧
              ∃ value, surroundings.Meets documents (.ok value)) := by
  rw [run_of_check hread]
  refine ⟨fun hlong => ?_, fun hshown => ?_⟩
  · exact (ending_eq_fault_iff hfind hne).2 ⟨result_check_of_showsLong hresolve hlong _, rfl⟩
  have hcheck : ∀ other, (surroundings.check calls arguments documents).1.result = .error other ↔
      (other = fault ∧ ∃ value, surroundings.Meets documents (.ok value)) ∨
        surroundings.Meets documents (.error other) :=
    fun other => check_eq_error_iff_of_malformed hresolve hshown hstructured hmalformed
  refine ⟨?_, ?_, fun other => ?_⟩
  · rw [ending_eq_usage_iff hfind hne]
    simp only [hcheck]
    constructor
    · rintro ⟨other, ⟨rfl, hmeets⟩ | hmeets, husage⟩
      · exact ⟨husage, hmeets⟩
      · rw [isUsage_eq_false_of_meets hreaders hmeets] at husage
        cases husage
    · rintro ⟨husage, hmeets⟩
      exact ⟨fault, .inl ⟨rfl, hmeets⟩, husage⟩
  · rw [ending_eq_failed_iff hfind hne]
    exact check_eq_ok_iff_of_malformed hresolve hshown hstructured hmalformed hne
  · rw [ending_eq_fault_iff hfind hne, hcheck]
    constructor
    · rintro ⟨⟨rfl, hmeets⟩ | hmeets, husage⟩
      · exact .inr ⟨husage, rfl, hmeets⟩
      · exact .inl hmeets
    · rintro (hmeets | ⟨husage, rfl, hmeets⟩)
      · exact ⟨.inr hmeets, isUsage_eq_false_of_meets hreaders hmeets⟩
      · exact ⟨.inl ⟨rfl, hmeets⟩, husage⟩

def vacant : Value :=
  .complexSchema .null .null .null .null .null .null (.bool false) (.bool false)

/-- An enumeration with an option that is too long to be written, under a constraint on texts. -/
def longOption : Value :=
  .complexSchema .null .null .null (.list [.int (.ofNat (Nat.pow 10 digitLimit))]) (.stringSchema .null) .null
    (.bool false) (.bool false)

/-- A document that breaks off, and one that is a number. -/
def brokenOff : Surroundings where
  settings := .standard
  files := ⟨.directory .full [("a.json", .file [0x7b]), ("b.json", .file [0x31])], []⟩
  modules := [⟨"m", some [("S", vacant), ("T", longOption)]⟩]
  loader := .new .null false

/-- The document that breaks off hides the violation, unless the other is checked behind it. Neither
hides that the second schema cannot be written. -/
theorem run_malformed_brokenOff :
    (Reference.resolve brokenOff.modules (.str "m:S")).result = .ok vacant ∧
      Schema.isSimple vacant = false ∧
      Schema.aggregation vacant = .error (.contract (.aggregation [])) ∧
      (run standard brokenOff ["m:S", "a.json"]).ending = .exit failedStatus ∧
      (run standard brokenOff ["m:S", "a.json", "b.json"]).ending = .exit usageStatus ∧
      Schema.aggregation longOption = .error (.contract (.constraintsOn .enumeration)) ∧
      (run standard brokenOff ["m:T", "a.json"]).ending = .fault (.value .integerTooLong) := by
  have hreaders : brokenOff.loader.readers.Lawful := Readers.standard_lawful
  have hbroken : ∀ document ∈ [Path.ofText "a.json"], brokenOff.Unreadable document :=
    List.forall_mem_singleton.2 ⟨_, rfl⟩
  have hnumber : brokenOff.load (.ofText "b.json") = .ok (.int 1) := rfl
  have hreadable : ¬ brokenOff.Unreadable (.ofText "b.json") := by
    simp [Surroundings.Unreadable, hnumber]
  refine ⟨rfl, rfl, rfl, ?_, ?_, rfl, ?_⟩
  · have halone := @run_malformed standard brokenOff hreaders ["m:S", "a.json"]
      ⟨"m:S", ["a.json"], some .human, none⟩ [.ofText "a.json"] vacant _ rfl rfl (by simp) rfl rfl
      rfl
    exact (halone.2 rfl).2.1.2 hbroken
  · have hboth := @run_malformed standard brokenOff hreaders ["m:S", "a.json", "b.json"]
      ⟨"m:S", ["a.json", "b.json"], some .human, none⟩ [.ofText "a.json", .ofText "b.json"] vacant
      _ rfl rfl (by simp) rfl rfl rfl
    exact (hboth.2 rfl).1.2 ⟨rfl, .int 1, [.ofText "a.json"], _, [], rfl, hbroken, hreadable, hnumber⟩
  · have hlong := @run_malformed standard brokenOff hreaders ["m:T", "a.json"]
      ⟨"m:T", ["a.json"], some .human, none⟩ [.ofText "a.json"] longOption _ rfl rfl (by simp) rfl
      rfl rfl
    exact hlong.1 (by decide +kernel)

end Malformed

end CommandLine

end Conformance
