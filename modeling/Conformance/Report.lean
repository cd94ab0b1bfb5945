import Conformance.Files.Path
import Conformance.Json.Writer
import Conformance.Value.Printed

/-!
# Reports

The outcome of each check, and the three formats in which a list of outcomes is shown. A result
passes when its verdict is true and no problem kept the document from being checked; every format
shows the same results as passed.
-/

namespace Conformance

/-- What checking one document gave: the verdict, nothing when there is none, and the problems
that prevented it. -/
structure CheckResult where
  file : Files.Path
  valid : Value
  errors : List Value

namespace CheckResult

def unchecked (file : Files.Path) : CheckResult := ⟨file, .null, []⟩

def passed (result : CheckResult) : Bool := result.valid.isTrue && result.errors.isEmpty

def addError (result : CheckResult) (message : Value) : CheckResult :=
  { result with errors := result.errors ++ [message] }

def errorValue (message : Value) : Value := .dict [(.str "message", message)]

def toValue (result : CheckResult) : Value :=
  .dict [(.str "file", .str result.file.text), (.str "valid", result.valid),
    (.str "errors", .list (result.errors.map errorValue))]

def humanLines (reference : String) (result : CheckResult) : List String :=
  if result.passed then [s!"{result.file.text}: OK"]
  else
    s!"{result.file.text}: FAILED"
      :: result.errors.map (fun message => "  ERROR: " ++ message.displayed)
      ++ (if result.valid.isFalse then ["  ERROR: does not match schema " ++ reference] else [])

/-- The annotations about one result: one for each problem, and one for a false verdict. -/
def annotations (reference : String) (result : CheckResult) : List String :=
  result.errors.map (fun message => s!"::error file={result.file.text}::" ++ message.displayed)
    ++ (if result.valid.isFalse then
          [s!"::error file={result.file.text}::Document does not match schema " ++ reference]
        else [])

end CheckResult

namespace Report

inductive Format
  | human
  | json
  | annotations
  deriving DecidableEq

def Format.name : Format → String
  | .human => "human"
  | .json => "json"
  | .annotations => "github-actions"

def Format.all : List Format := [.human, .json, .annotations]

def Format.ofName? (name : String) : Option Format := Format.all.find? (·.name == name)

def summary (reference : String) (results : List CheckResult) : Value :=
  .dict [(.str "schema", .str reference), (.str "files", .int results.length),
    (.str "passed", .int (results.countP (·.passed))),
    (.str "failed", .int (results.countP fun result => !result.passed)),
    (.str "results", .list (results.map (·.toValue)))]

def joinLines (lines : List String) : String := "\n".intercalate lines

def render (format : Format) (reference : String) (results : List CheckResult) :
    Except Fault String :=
  match format with
  | .human => .ok (joinLines (results.flatMap (·.humanLines reference)))
  | .annotations => .ok (joinLines (results.flatMap (·.annotations reference)))
  | .json => Json.writeDocument (summary reference results)

end Report

end Conformance
