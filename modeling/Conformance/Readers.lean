import Conformance.Json.Reader
import Conformance.Yaml.Document

/-!
# Readers

A loader is given a reader for each of the two languages of documents. What holds of loads holds of
whatever readers there are, as long as these raise no faults that are the library's own (`Lawful`).
The standard readers are those of this library, which bound no depth of nesting.
-/

namespace Conformance

/-- How texts in JSON and in YAML are read. -/
structure Readers where
  json : List Char → Except Refusal Value
  yaml : List Char → Except Refusal Value

namespace Readers

def standard : Readers := ⟨Json.value, Yaml.value⟩

structure Lawful (readers : Readers) : Prop where
  json_foreign : ∀ {text fault}, readers.json text = .error (.brokenOff fault) →
    fault.category.covered .library = false
  yaml_foreign : ∀ {text fault}, readers.yaml text = .error (.brokenOff fault) →
    fault.category.covered .library = false

end Readers

end Conformance
