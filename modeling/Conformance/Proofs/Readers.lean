import Conformance.Proofs.Json.Reader
import Conformance.Proofs.Yaml.Document
import Conformance.Readers

/-! # The standard readers

What the standard readers refuse without calling it malformed, they refuse for an integer with too
many digits or for what a tag of YAML does not take. None of these faults is one of the library's
own.
-/

namespace Conformance.Readers

/-- The categories of the faults at which the standard readers break off. -/
def breaking : List Category := [.key, .index, .value, .overflow, .attribute, .type, .runtime]

theorem not_covered_of_mem_breaking :
    ∀ category ∈ breaking, category.covered .library = false := by decide

theorem standard_lawful : standard.Lawful where
  json_foreign h := by
    obtain ⟨count, -, rfl⟩ := Json.limit_lt_of_value h
    rfl
  yaml_foreign h := not_covered_of_mem_breaking _ (Yaml.escape_of_value h).category_mem

end Conformance.Readers
