import Conformance.Yaml.Grammar
import Conformance.Yaml.Lexer
import Conformance.Yaml.Meaning

/-!
# Documents in YAML
-/

namespace Conformance.Yaml

/-- The value of the only document in a text; a text without one stands for nothing. -/
def readDocument (text : List Char) : Reading Value := do
  if !text.all isPrintable then malformed
  match ← Graph.ofTokens (Token.ofText text) with
  | none => return .null
  | some (graph, root) => graph.value root

/-- Malformed texts are not told apart, so all of them have the same problem. -/
def Stop.refusal : Stop → Refusal
  | .malformed => .malformed "<yaml>"
  | .fault cause => .brokenOff cause

def value (text : List Char) : Except Refusal Value := (readDocument text).mapError Stop.refusal

/-- The value of a document; faults name where the text comes from. -/
def read (source : String) (text : List Char) : Except Fault Value :=
  (value text).mapError (Refusal.toFault (.invalidYaml source))

end Conformance.Yaml
