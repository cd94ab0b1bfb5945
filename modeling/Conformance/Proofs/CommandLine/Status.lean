import Conformance.Proofs.Check.Search
import Conformance.Proofs.CommandLine.Course
import Conformance.Proofs.Report.Verdicts

/-! # The status of a run

A run that checks documents and ends with the status of success or of failure has one result for
each document that it found, and its status, its results and its report in any format tell the same
of them.
-/

namespace Conformance.CommandLine

variable {calls : Interpretation} {surroundings : Surroundings}

theorem report_eq_exit {arguments : Arguments} {results : List CheckResult} {status : Nat}
    (h : (report arguments results).1 = .exit status) :
    status = if results.all (·.passed) then passedStatus else failedStatus := by
  unfold report at h
  split at h
  · cases h
  · cases h
    rfl

/-- Only a run that reports ends with the status of success or of failure. -/
theorem Course.exists_results {arguments : Arguments} {status : Nat} {text notice : String}
    (h : Course calls surroundings arguments (.exit status) text notice)
    (hstatus : status = passedStatus ∨ status = failedStatus) :
    ∃ documents results, (surroundings.find arguments).result = .ok documents ∧ documents ≠ [] ∧
      (surroundings.check calls arguments documents).1.result = .ok results ∧
      status = if results.all (·.passed) then passedStatus else failedStatus := by
  have husage : ¬ (usageStatus = passedStatus ∨ usageStatus = failedStatus) := by decide
  generalize hending : Ending.exit status = ending at h
  cases h with
  | lost => cases hending
  | nothing =>
      cases hending
      exact absurd hstatus husage
  | refused =>
      cases hending
      exact absurd hstatus husage
  | broken => cases hending
  | @reported documents results hfind hne hcheck =>
      exact ⟨documents, results, hfind, hne, hcheck, report_eq_exit hending.symm⟩

theorem status_eq_passed_iff {results : List CheckResult} :
    (if results.all (·.passed) then passedStatus else failedStatus) = passedStatus ↔
      ∀ result ∈ results, result.passed = true := by
  rw [← List.all_eq_true]
  split
  · simp [*]
  · simp [*, passedStatus, failedStatus]

/-- Nothing else than a check of documents or the help ends so. -/
theorem help_or_check_of_exit {words : List String} {status : Nat}
    (hending : (run calls surroundings words).ending = .exit status)
    (hstatus : status = passedStatus ∨ status = failedStatus) :
    read surroundings.settings words = .ok .help ∧ status = passedStatus ∨
      ∃ arguments, read surroundings.settings words = .ok (.check arguments) := by
  unfold run at hending
  dsimp only at hending
  split at hending
  · cases hending
    exact absurd hstatus (by decide)
  · split at hending
    · cases hending
      exact .inl ⟨‹_›, rfl⟩
    · cases hending
  · exact .inr ⟨_, ‹_›⟩

variable (calls surroundings)

/-- A run that ends with the status of success or of failure shows the help, or it has a result for
each of the documents, which are found in ascending order and of which there is one at least. Its
status is that of success exactly if all results passed, all reports agree on which did, and
annotations are missing exactly with the status of success. -/
theorem run_verdicts {words : List String} {status : Nat}
    (hending : (run calls surroundings words).ending = .exit status)
    (hstatus : status = passedStatus ∨ status = failedStatus) :
    read surroundings.settings words = .ok .help ∧ status = passedStatus ∨
      ∃ arguments documents results,
        read surroundings.settings words = .ok (.check arguments) ∧
        (surroundings.find arguments).result = .ok documents ∧
        (surroundings.check calls arguments documents).1.result = .ok results ∧
        results.map (·.file) = documents ∧ Check.Ascends documents ∧ results ≠ [] ∧
        (status = passedStatus ↔ ∀ result ∈ results, result.passed = true) ∧
        Report.Agrees arguments.schema results ∧
        (Report.render .annotations arguments.schema results = .ok "" ↔
          status = passedStatus) := by
  rcases help_or_check_of_exit hending hstatus with hhelp | ⟨arguments, hread⟩
  · exact .inl hhelp
  · right
    obtain ⟨ending, text, notice, loader, hcourse, hrun⟩ :=
      exists_course calls surroundings arguments
    rw [run_of_check hread, hrun] at hending
    cases hending
    obtain ⟨documents, results, hfind, hne, hcheck, heq⟩ := hcourse.exists_results hstatus
    have hsettles := Check.settles_of_checkDocuments _ _ _ _ hcheck
    have hdecided := Check.decided_of_settles hsettles
    have hfiles := Check.map_file_of_settles hsettles
    have hpassed : status = passedStatus ↔ ∀ result ∈ results, result.passed = true := by
      rw [heq, status_eq_passed_iff]
    refine ⟨arguments, documents, results, hread, hfind, hcheck, hfiles,
      Check.ascends_of_findDocuments hfind, ?_, hpassed,
      Report.agrees_of_decided hdecided _, ?_⟩
    · rintro rfl
      exact hne hfiles.symm
    · rw [Report.render_annotations_eq_empty_iff hdecided, hpassed]

/-- One document that is a number and one that is a text. -/
def twoDocuments : Surroundings where
  settings := .standard
  files := ⟨.directory .full [("a.json", .file [0x31]), ("b.json", .file [0x22, 0x22])], []⟩
  modules := [⟨"m", some [("S", .str "number")]⟩]
  loader := .new .null false

/-- The documents are named in another order, and one of them twice. -/
def overlapping : List String := ["m:S", "b.json", "a.json", "./b.json"]

theorem run_verdicts_overlapping :
    (run standard twoDocuments overlapping).ending = .exit failedStatus ∧
      ∃ arguments results,
        read twoDocuments.settings overlapping = .ok (.check arguments) ∧
        results.map (·.file) = [.ofText "a.json", .ofText "b.json"] ∧
        Report.Agrees arguments.schema results ∧
        ¬ ∀ result ∈ results, result.passed = true := by
  have hending : (run standard twoDocuments overlapping).ending = .exit failedStatus := rfl
  refine ⟨hending, ?_⟩
  rcases run_verdicts standard twoDocuments hending (.inr rfl) with ⟨-, hstatus⟩ |
    ⟨arguments, documents, results, hread, hfind, -, hfiles, -, -, hpassed, hagrees, -⟩
  · cases hstatus
  · have hread' : read twoDocuments.settings overlapping =
        .ok (.check ⟨"m:S", ["b.json", "a.json", "./b.json"], some .human, none⟩) := rfl
    rw [hread'] at hread
    cases hread
    cases hfind
    refine ⟨_, results, hread', hfiles, hagrees, fun hall => ?_⟩
    cases hpassed.2 hall

end Conformance.CommandLine
