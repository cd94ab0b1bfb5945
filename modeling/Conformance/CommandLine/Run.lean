import Conformance.Check
import Conformance.CommandLine.Help

/-!
# Runs of the command line

A run reads its arguments, finds the documents, checks them and prints a report. In the formats for
machines all log records go to standard error, so that standard output holds only the report.
-/

namespace Conformance.CommandLine

/-- What a run finds: the settings, the files, the modules, and the loader it shares with earlier
runs. -/
structure Surroundings where
  settings : Settings
  files : Files.System
  modules : Modules
  loader : Loader

inductive Ending
  | exit (status : Nat)
  | fault (fault : Fault)

/-- What a run leaves: its ending, what it wrote, and the loader. -/
structure Run where
  ending : Ending
  output : String
  error : String
  loader : Loader

def passedStatus : Nat := 0
def failedStatus : Nat := 1
def usageStatus : Nat := 2

def effective (settings : Settings) (arguments : Arguments) : Settings :=
  let settings :=
    match arguments.logLevel with
    | some level => if level.isEmpty then settings else { settings with logLevel := level }
    | none => settings
  if arguments.format = some .human then settings else { settings with printLevel := "DEBUG" }

/-- The records as the handlers write them, and behind them what the run prints itself. -/
def conclude (state : Logging.State) (records : List LogRecord) (loader : Loader) (ending : Ending)
    (output error : String) : Run :=
  let lines := records.flatMap state.emit
  { ending, loader
    output := Logging.written .output lines ++ output
    error := Logging.written .error lines ++ error }

/-- Is a fault one that the user can mend: a bad reference or a bad schema? -/
def isUsage (fault : Fault) : Bool := fault.category == .reference || fault.category == .contract

def report (arguments : Arguments) (results : List CheckResult) : Ending × String :=
  match Report.render (arguments.format.getD .human) arguments.schema results with
  | .error fault => (.fault fault, "")
  | .ok text =>
    (.exit (if results.all (·.passed) then passedStatus else failedStatus),
      if text.isEmpty then "" else text ++ "\n")

def runCheck (calls : Interpretation) (surroundings : Surroundings) (arguments : Arguments) : Run :=
  let state := (effective surroundings.settings arguments).configure .initial
  let files := surroundings.files
  let loader := surroundings.loader
  let found := Check.findDocuments files (arguments.paths.map .ofText)
  match found.result with
  | .error fault => conclude state found.records loader (.fault fault) "" ""
  | .ok [] =>
    conclude state found.records loader (.exit usageStatus) "" "No documents found.\n"
  | .ok documents =>
    let (checked, loader) :=
      Check.checkDocuments calls files surroundings.modules loader documents
        (.str arguments.schema)
    let records := found.records ++ checked.records
    match checked.result with
    | .error fault =>
      if isUsage fault then
        conclude state records loader (.exit usageStatus) "" s!"Error: {fault.message}\n"
      else conclude state records loader (.fault fault) "" ""
    | .ok results =>
      let (ending, text) := report arguments results
      conclude state records loader ending text ""

def run (calls : Interpretation) (surroundings : Surroundings) (arguments : List String) : Run :=
  let loader := surroundings.loader
  match read surroundings.settings arguments with
  | .error fault =>
    ⟨.exit usageStatus, "", usage ++ s!"{program}: error: {fault.message}\n", loader⟩
  | .ok .help =>
    match help surroundings.settings with
    | .ok text => ⟨.exit passedStatus, text, "", loader⟩
    | .error fault => ⟨.fault fault, "", "", loader⟩
  | .ok (.check arguments) => runCheck calls surroundings arguments

end Conformance.CommandLine
