import Conformance.Proofs.CommandLine.Course
import Conformance.Proofs.Logging.Records
import Conformance.Proofs.Logging.Routing
import Conformance.Proofs.Report.Verdicts

/-! # The streams of a run

With a report for machines, standard output holds the report and nothing else, however the run ends
and whatever level is asked for. Every record from that level on is a line on standard error.
-/

namespace Conformance.CommandLine

open Files (Path)

variable {calls : Interpretation} {surroundings : Surroundings} {arguments : Arguments}
  {ending : Ending} {text notice : String}

def threshold (settings : Settings) (arguments : Arguments) : Int :=
  Logging.resolveLevel (effective settings arguments).logLevel Logging.warning

/-- Reports for machines send every record to standard error. -/
theorem resolveLevel_printLevel (settings : Settings) (h : arguments.format ≠ some .human) :
    Logging.resolveLevel (effective settings arguments).printLevel Logging.warning =
      Logging.debug := by
  have hdebug : Logging.resolveLevel "DEBUG" Logging.warning = Logging.debug := by decide
  unfold effective
  rw [if_neg h]
  exact hdebug

theorem graded_records (calls : Interpretation) (surroundings : Surroundings)
    (arguments : Arguments) :
    ∀ record ∈ surroundings.records calls arguments, Logging.debug ≤ record.level := by
  intro record hrecord
  rcases List.mem_append.1 hrecord with hrecord | hrecord
  · exact (Check.graded_findDocuments _ _).of_mem_records record hrecord
  · split at hrecord
    · exact (Check.graded_checkDocuments _ _ _ _ _ _).of_mem_records record hrecord
    · cases hrecord

def linesFrom (level : Int) (records : List LogRecord) : String :=
  String.join <| (records.filter fun record => level ≤ record.level).map fun record =>
    Logging.line record ++ "\n"

theorem written_log (calls : Interpretation) (surroundings : Surroundings)
    (h : arguments.format ≠ some .human) :
    let records := surroundings.records calls arguments
    let lines :=
      records.flatMap ((effective surroundings.settings arguments).configure .initial).emit
    Logging.written .output lines = "" ∧
      Logging.written .error lines =
        linesFrom (threshold surroundings.settings arguments) records := by
  have hdebug := Int.le_of_eq (resolveLevel_printLevel surroundings.settings h)
  have hgraded := graded_records calls surroundings arguments
  constructor
  · exact Logging.written_output_of_le_debug hdebug _ _ _
  · exact Logging.written_error_of_le_debug hdebug _ _ _ hgraded

/-! ## What is printed beside the log -/

/-- Only a report is printed. -/
theorem Course.text_eq (h : Course calls surroundings arguments ending text notice) :
    text = "" ∨ ∃ documents results shown,
      (surroundings.find arguments).result = .ok documents ∧
      (surroundings.check calls arguments documents).1.result = .ok results ∧
      Report.render (arguments.format.getD .human) arguments.schema results = .ok shown ∧
      text = shown ++ "\n" := by
  cases h with
  | lost => exact .inl rfl
  | nothing => exact .inl rfl
  | refused => exact .inl rfl
  | broken => exact .inl rfl
  | @reported documents results hfind hne hcheck =>
      unfold report
      split
      · exact .inl rfl
      · rename_i shown hrender
        by_cases hempty : shown.isEmpty
        · exact .inl (if_pos hempty)
        · exact .inr ⟨documents, results, shown, hfind, hcheck, hrender, if_neg hempty⟩

/-- Beside its log a run tells the user at most why its status is that of misuse. -/
theorem Course.notice_eq (h : Course calls surroundings arguments ending text notice) :
    notice = "" ∨ ending = .exit usageStatus ∧ (notice = "No documents found.\n" ∨
      ∃ documents fault, (surroundings.check calls arguments documents).1.result = .error fault ∧
        notice = s!"Error: {fault.message}\n") := by
  cases h with
  | lost => exact .inl rfl
  | nothing => exact .inr ⟨rfl, .inl rfl⟩
  | refused _ _ hcheck => exact .inr ⟨rfl, .inr ⟨_, _, hcheck, rfl⟩⟩
  | broken => exact .inl rfl
  | reported => exact .inl rfl

/-- A report in JSON is printed exactly with the status of success or of failure. -/
theorem Course.text_ne_empty_iff (h : Course calls surroundings arguments ending text notice)
    (hformat : arguments.format = some .json) :
    text ≠ "" ↔ ending = .exit passedStatus ∨ ending = .exit failedStatus := by
  have hmisuse : ¬ (Ending.exit usageStatus = .exit passedStatus ∨
      Ending.exit usageStatus = .exit failedStatus) := by
    simp [usageStatus, passedStatus, failedStatus]
  cases h with
  | lost => simp
  | nothing => simpa using hmisuse
  | refused => simpa using hmisuse
  | broken => simp
  | @reported documents results hfind hne hcheck =>
      have hdecided := Check.decided_of_settles (Check.settles_of_checkDocuments _ _ _ _ hcheck)
      obtain ⟨shown, hrender, -⟩ := Report.exists_render_json
        (fun result hresult => (hdecided result hresult).reportable) arguments.schema
      have hshown : shown ≠ "" := Json.ne_empty_of_writeDocument_dict hrender
      have hreport : report arguments results =
          (.exit (if results.all (·.passed) then passedStatus else failedStatus),
            shown ++ "\n") := by
        simp [report, hformat, hrender, hshown]
      rw [hreport]
      cases results.all (·.passed) <;> simp

variable (calls surroundings)

/-- With a report for machines, standard output is empty or holds the report and a line break,
whatever the run ends with; with a report in JSON it is empty exactly if the status is neither that
of success nor that of failure. Standard error has one line for each record of the run from the
level on that is asked for, and behind them at most why the status is that of misuse. -/
theorem run_streams {words : List String} {arguments : Arguments} {format : Report.Format}
    (hread : read surroundings.settings words = .ok (.check arguments))
    (hformat : arguments.format = some format) (hmachine : format ≠ .human) :
    let run := run calls surroundings words
    (run.output = "" ∨ ∃ documents results text,
      (surroundings.find arguments).result = .ok documents ∧
      (surroundings.check calls arguments documents).1.result = .ok results ∧
      Report.render format arguments.schema results = .ok text ∧ run.output = text ++ "\n") ∧
    (format = .json →
      (run.output ≠ "" ↔ run.ending = .exit passedStatus ∨ run.ending = .exit failedStatus)) ∧
    ∃ notice, run.error = linesFrom (threshold surroundings.settings arguments)
        (surroundings.records calls arguments) ++ notice ∧
      (notice = "" ∨ run.ending = .exit usageStatus ∧ (notice = "No documents found.\n" ∨
        ∃ documents fault,
          (surroundings.check calls arguments documents).1.result = .error fault ∧
          notice = s!"Error: {fault.message}\n")) := by
  have hne : arguments.format ≠ some .human := by
    rw [hformat]
    simpa using hmachine
  obtain ⟨ending, text, notice, loader, hcourse, hrun⟩ :=
    exists_course calls surroundings arguments
  obtain ⟨houtput, herror⟩ := written_log calls surroundings hne
  rw [run_of_check hread, hrun]
  simp only [conclude, houtput, herror, String.empty_append]
  refine ⟨?_, ?_, notice, rfl, hcourse.notice_eq⟩
  · simpa only [hformat, Option.getD_some] using hcourse.text_eq
  · rintro rfl
    exact hcourse.text_ne_empty_iff hformat

/-- A document beside a path at which there is none. -/
def partlyMissing : Surroundings where
  settings := .standard
  files := ⟨.directory .full [("a.json", .file [0x31])], []⟩
  modules := [⟨"m", some [("S", .str "number")]⟩]
  loader := .new .null false

def partlyMissingWords : List String := ["--format", "json", "m:S", "a.json", "b.json"]

def partlyMissingArguments : Arguments := ⟨"m:S", ["a.json", "b.json"], some .json, none⟩

theorem run_streams_partlyMissing :
    read partlyMissing.settings partlyMissingWords = .ok (.check partlyMissingArguments) ∧
      partlyMissingArguments.format = some .json ∧ Report.Format.json ≠ .human ∧
      (run standard partlyMissing partlyMissingWords).output ≠ "" ∧
      (run standard partlyMissing partlyMissingWords).error =
        "shapecheck.cli - WARNING - Path does not exist: b.json\n" := by
  have hread : read partlyMissing.settings partlyMissingWords =
      .ok (.check partlyMissingArguments) := rfl
  have hending : (run standard partlyMissing partlyMissingWords).ending = .exit passedStatus := rfl
  have hlines : linesFrom (threshold partlyMissing.settings partlyMissingArguments)
      (partlyMissing.records standard partlyMissingArguments) =
        "shapecheck.cli - WARNING - Path does not exist: b.json\n" := rfl
  have hmachine : Report.Format.json ≠ .human := by decide
  obtain ⟨-, hjson, notice, herror, hnotice⟩ :=
    run_streams standard partlyMissing hread rfl hmachine
  have hempty : notice = "" := by
    rcases hnotice with hempty | ⟨husage, -⟩
    · exact hempty
    · rw [hending] at husage
      cases husage
  refine ⟨hread, rfl, hmachine, (hjson rfl).2 (.inl hending), ?_⟩
  rw [herror, hlines, hempty, String.append_empty]

end Conformance.CommandLine
