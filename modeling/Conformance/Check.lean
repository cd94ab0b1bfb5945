import Conformance.Loader
import Conformance.Logging
import Conformance.Report

/-!
# Finding and checking documents

A directory stands for all below it that is named like a document; a file that is named stands for
itself. Every document gets a result of its own; only a fault of the schema or of a predicate ends
the check.
-/

namespace Conformance

namespace Check

def logger : String := "shapecheck.cli"

def endings : List String := [".yaml", ".yml", ".json"]

def isDocumentName (name : String) : Bool :=
  endings.any fun ending => ending.toList.isSuffixOf name.toList

def hasDocumentName (path : Files.Path) : Bool :=
  match path.names.getLast? with
  | some name => isDocumentName name
  | none => false

def warn (text : String) : Outcome Unit := .log ⟨Logging.warning, logger, text⟩

def documentsAt (files : Files.System) (path : Files.Path) : Outcome (List Files.Path) := do
  match ← files.lookup path with
  | none =>
    warn s!"Path does not exist: {path.text}"
    return []
  | some (.file _) | some (.unreadable _) => return [path]
  | some (.directory access entries) =>
    return ((Files.Tree.directory access entries).pathsBelow path).filter hasDocumentName
  | some .pipe =>
    warn s!"Path is neither file nor directory: {path.text}"
    return []

def allDocumentsAt (files : Files.System) : List Files.Path → Outcome (List Files.Path)
  | [] => pure []
  | path :: rest => do
    let here ← documentsAt files path
    return here ++ (← allDocumentsAt files rest)

def insertPath (path : Files.Path) : List Files.Path → List Files.Path
  | [] => [path]
  | first :: rest =>
    if path = first then first :: rest
    else if path.parts < first.parts then path :: first :: rest
    else first :: insertPath path rest

def ascending (paths : List Files.Path) : List Files.Path := paths.foldr insertPath []

def findDocuments (files : Files.System) (paths : List Files.Path) : Outcome (List Files.Path) := do
  return ascending (← allDocumentsAt files paths)

def judge (calls : Interpretation) (schema : Value) (document : Files.Path) (value : Value) :
    Outcome CheckResult := do
  let valid ← Schema.validate calls value schema
  let verdict := if valid then "valid" else "invalid"
  Outcome.log ⟨Logging.info, logger, s!"{document.text}: {verdict}"⟩
  return { CheckResult.unchecked document with valid := .bool valid }

/-- The result for one document. What keeps it from being loaded is recorded. -/
def checkDocument (calls : Interpretation) (files : Files.System) (schema : Value) (loader : Loader)
    (document : Files.Path) : Outcome CheckResult × Loader :=
  let (loaded, loader) := loader.load files document
  let outcome : Outcome CheckResult :=
    match loaded.result with
    | .ok value =>
      let judged := judge calls schema document value
      ⟨loaded.events ++ judged.events, judged.result⟩
    | .error (.document cause) =>
      ⟨loaded.events, .ok ((CheckResult.unchecked document).addError (.str cause.message))⟩
    | .error fault => ⟨loaded.events, .error fault⟩
  (outcome, loader)

/-- The results for several documents in order, up to a fault. -/
def checkEach (calls : Interpretation) (files : Files.System) (schema : Value) :
    Loader → List Files.Path → Outcome (List CheckResult) × Loader
  | loader, [] => (pure [], loader)
  | loader, document :: rest =>
    let (first, loader) := checkDocument calls files schema loader document
    match first.result with
    | .error _ => (first.bind fun _ => pure [], loader)
    | .ok _ =>
      let (others, loader) := checkEach calls files schema loader rest
      (first.bind fun result => others.bind fun results => pure (result :: results), loader)

/-- The schema that a reference names, once its validator is announced. -/
def schemaOf (modules : Modules) (reference : Value) : Outcome Value := do
  let schema ← Reference.resolve modules reference
  Schema.announce schema
  return schema

def checkDocuments (calls : Interpretation) (files : Files.System) (modules : Modules)
    (loader : Loader) (documents : List Files.Path) (reference : Value) :
    Outcome (List CheckResult) × Loader :=
  let schema := schemaOf modules reference
  match schema.result with
  | .error _ => (schema.bind fun _ => pure [], loader)
  | .ok target =>
    let (results, loader) := checkEach calls files target loader documents
    (schema.bind fun _ => results, loader)

end Check

end Conformance
