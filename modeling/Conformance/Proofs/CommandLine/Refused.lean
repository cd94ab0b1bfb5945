import Conformance.Proofs.CommandLine.Malformed
import Conformance.Proofs.Reference

/-! # Runs with a reference that names no schema

The documents are found before the reference is resolved. A run that finds some ends with the
status of misuse if its reference is refused as one, and is broken by the fault of a module that is
spelled as relative.
-/

namespace Conformance.CommandLine

open Files (Path)
open Reference (Names IsSchema NamesRelative)

variable {calls : Interpretation} {surroundings : Surroundings} {arguments : Arguments}
  {documents : List Path} {fault : Fault}

theorem result_check_of_refused
    (hresolve : (Reference.resolve surroundings.modules (.str arguments.schema)).result =
      .error fault) (documents : List Path) :
    (surroundings.check calls arguments documents).1.result = .error fault := by
  rw [Surroundings.check, Check.result_checkDocuments, Check.schemaOf, Outcome.bind_eq_bind,
    Outcome.result_bind_of_error hresolve]
  rfl

theorem ending_of_lost (hfind : (surroundings.find arguments).result = .error fault) :
    (runCheck calls surroundings arguments).ending = .fault fault := by
  have hlost : (Check.findDocuments surroundings.files (arguments.paths.map .ofText)).result =
      .error fault := hfind
  simp only [runCheck, hlost]
  rfl

/-- A run that finds no documents does not come to its reference. -/
theorem ending_of_found_nothing (hfind : (surroundings.find arguments).result = .ok []) :
    (runCheck calls surroundings arguments).ending = .exit usageStatus := by
  have hnothing : (Check.findDocuments surroundings.files (arguments.paths.map .ofText)).result =
      .ok [] := hfind
  simp only [runCheck, hnothing]
  rfl

theorem ending_of_refused
    (hresolve : (Reference.resolve surroundings.modules (.str arguments.schema)).result =
      .error fault)
    (hfind : (surroundings.find arguments).result = .ok documents) (hne : documents ≠ []) :
    (runCheck calls surroundings arguments).ending =
      if isUsage fault then .exit usageStatus else .fault fault := by
  rw [ending_of_found hfind hne, result_check_of_refused hresolve]

/-- A text that is refused as a reference otherwise than by a fault of references is relative. -/
theorem not_relative_iff_of_refused (modules : Modules) {text : String}
    (h : (Reference.resolve modules (.str text)).result = .error fault) :
    (¬ ∃ moduleName, NamesRelative (.str text) moduleName) ↔ isUsage fault = true := by
  rcases Reference.cases_of_result_resolve_eq_error h with ⟨cause, rfl⟩ |
    ⟨moduleName, hrelative, rfl⟩ | ⟨hlong, -⟩
  · refine iff_of_true ?_ rfl
    rintro ⟨moduleName, hrelative⟩
    rw [Reference.result_resolve_of_namesRelative hrelative] at h
    cases h
  · exact iff_of_false (fun hnone => hnone ⟨moduleName, hrelative⟩) Bool.false_ne_true
  · cases hlong

/-- A schema two names below its module, and a document. -/
def nestedNames : Surroundings where
  settings := .standard
  files := ⟨.directory .full [("a.json", .file [0x31])], []⟩
  modules := [⟨"m", some [("Nested", .attributes [("S", .str "number")])]⟩]
  loader := .new .null false

end Conformance.CommandLine
