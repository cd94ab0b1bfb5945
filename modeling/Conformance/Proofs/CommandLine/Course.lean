import Conformance.CommandLine.Run

/-! # How a check of the command line goes

A run with complete arguments ends in one of five ways, by what finding the documents gives and by
what checking them gives. Its log, and with it the streams, are the records of both.
-/

namespace Conformance.CommandLine

open Files (Path)

def Surroundings.find (surroundings : Surroundings) (arguments : Arguments) :
    Outcome (List Path) :=
  Check.findDocuments surroundings.files (arguments.paths.map .ofText)

def Surroundings.check (surroundings : Surroundings) (calls : Interpretation)
    (arguments : Arguments) (documents : List Path) : Outcome (List CheckResult) × Loader :=
  Check.checkDocuments calls surroundings.files surroundings.modules surroundings.loader documents
    (.str arguments.schema)

/-- The records of a run: those of the search, and those of the check if there is one. -/
def Surroundings.records (surroundings : Surroundings) (calls : Interpretation)
    (arguments : Arguments) : List LogRecord :=
  (surroundings.find arguments).records ++
    match (surroundings.find arguments).result with
    | .ok (document :: rest) => (surroundings.check calls arguments (document :: rest)).1.records
    | _ => []

/-- How a run with complete arguments may go: its ending, the text of its report, and what it tells
the user beside its log. -/
inductive Course (calls : Interpretation) (surroundings : Surroundings) (arguments : Arguments) :
    Ending → String → String → Prop
  | lost {fault : Fault} (hfind : (surroundings.find arguments).result = .error fault) :
      Course calls surroundings arguments (.fault fault) "" ""
  | nothing (hfind : (surroundings.find arguments).result = .ok []) :
      Course calls surroundings arguments (.exit usageStatus) "" "No documents found.\n"
  | refused {documents : List Path} {fault : Fault}
      (hfind : (surroundings.find arguments).result = .ok documents) (hne : documents ≠ [])
      (hcheck : (surroundings.check calls arguments documents).1.result = .error fault)
      (husage : isUsage fault = true) :
      Course calls surroundings arguments (.exit usageStatus) "" s!"Error: {fault.message}\n"
  | broken {documents : List Path} {fault : Fault}
      (hfind : (surroundings.find arguments).result = .ok documents) (hne : documents ≠ [])
      (hcheck : (surroundings.check calls arguments documents).1.result = .error fault)
      (husage : isUsage fault = false) :
      Course calls surroundings arguments (.fault fault) "" ""
  | reported {documents : List Path} {results : List CheckResult}
      (hfind : (surroundings.find arguments).result = .ok documents) (hne : documents ≠ [])
      (hcheck : (surroundings.check calls arguments documents).1.result = .ok results) :
      Course calls surroundings arguments (report arguments results).1
        (report arguments results).2 ""

variable {calls : Interpretation} {surroundings : Surroundings} {arguments : Arguments}

theorem records_of_error {fault : Fault}
    (hfind : (surroundings.find arguments).result = .error fault) :
    surroundings.records calls arguments = (surroundings.find arguments).records := by
  rw [Surroundings.records, hfind, List.append_nil]

theorem records_of_nil (hfind : (surroundings.find arguments).result = .ok []) :
    surroundings.records calls arguments = (surroundings.find arguments).records := by
  rw [Surroundings.records, hfind, List.append_nil]

theorem records_of_cons {document : Path} {rest : List Path}
    (hfind : (surroundings.find arguments).result = .ok (document :: rest)) :
    surroundings.records calls arguments = (surroundings.find arguments).records ++
      (surroundings.check calls arguments (document :: rest)).1.records := by
  rw [Surroundings.records, hfind]

theorem run_of_check {words : List String}
    (hread : read surroundings.settings words = .ok (.check arguments)) :
    run calls surroundings words = runCheck calls surroundings arguments := by
  simp only [run, hread]

variable (calls surroundings arguments)

/-- Every run takes one of the courses, and concludes with its whole log. -/
theorem exists_course :
    ∃ ending text notice loader, Course calls surroundings arguments ending text notice ∧
      runCheck calls surroundings arguments =
        conclude ((effective surroundings.settings arguments).configure .initial)
          (surroundings.records calls arguments) loader ending text notice := by
  unfold runCheck
  dsimp only
  rw [show Check.findDocuments surroundings.files (arguments.paths.map .ofText) =
    surroundings.find arguments from rfl]
  cases hfind : (surroundings.find arguments).result with
  | error fault => exact ⟨_, _, _, _, .lost hfind, by rw [records_of_error hfind]⟩
  | ok documents =>
      cases documents with
      | nil => exact ⟨_, _, _, _, .nothing hfind, by rw [records_of_nil hfind]⟩
      | cons document rest =>
          have hne : document :: rest ≠ [] := List.cons_ne_nil document rest
          rw [records_of_cons hfind]
          dsimp only
          rw [show Check.checkDocuments calls surroundings.files surroundings.modules
            surroundings.loader (document :: rest) (.str arguments.schema) =
              surroundings.check calls arguments (document :: rest) from rfl]
          cases hcheck : (surroundings.check calls arguments (document :: rest)).1.result with
          | ok results => exact ⟨_, _, _, _, .reported hfind hne hcheck, rfl⟩
          | error fault =>
              dsimp only
              split
              · exact ⟨_, _, _, _, .refused hfind hne hcheck ‹_›, rfl⟩
              · exact ⟨_, _, _, _, .broken hfind hne hcheck (Bool.eq_false_iff.2 ‹_›), rfl⟩

end Conformance.CommandLine
