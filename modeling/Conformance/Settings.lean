import Conformance.Logging
import Conformance.Report

/-!
# Settings

What the environment says about logging, reports and the cache of documents. Validation itself
has no settings.
-/

namespace Conformance

structure Settings where
  logLevel : String
  printLevel : String
  format : Report.Format
  cacheEnabled : Bool
  deriving DecidableEq

namespace Settings

abbrev Environment := List (String × String)

def lookup (environment : Environment) (name default : String) : String :=
  ((environment.find? (·.1 == name)).map (·.2)).getD default

def standard : Settings := ⟨"WARNING", "WARNING", .human, false⟩

/-- Reads the settings; an unknown format counts as the one for readers. -/
def ofEnvironment (environment : Environment) : Settings :=
  let format := lookup environment "SHAPECHECK_OUTPUT_FORMAT" standard.format.name
  let cache := lookup environment "SHAPECHECK_CACHE_ENABLED" "false"
  { logLevel := lookup environment "SHAPECHECK_LOG_LEVEL" standard.logLevel
    printLevel := lookup environment "SHAPECHECK_PRINT_LEVEL" standard.printLevel
    format :=
      (Report.Format.ofName? (String.ofList (Text.lower (Text.trim format.toList)))).getD .human
    cacheEnabled := String.ofList (Text.lower cache.toList) == "true" }

/-- Configures logging; unknown names of levels stand for warnings. -/
def configure (settings : Settings) (state : Logging.State) : Logging.State :=
  state.configure (Logging.resolveLevel settings.logLevel Logging.warning)
    (Logging.resolveLevel settings.printLevel Logging.warning) Logging.Layout.standard

end Settings

end Conformance
