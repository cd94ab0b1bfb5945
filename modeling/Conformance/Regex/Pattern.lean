import Conformance.Regex.Matching
import Conformance.Regex.Reader

/-!
# Patterns of this library

Expressions that are written down here and matched from a given place on.
-/

namespace Conformance.Regex

/-- The expression that a text writes. One that cannot be read matches only the end. -/
def ofText (text : String) : Node :=
  match read {} false text.toList with
  | .ok expression => expression.node
  | .error _ => .anchor .textEnd

/-- A text as the code points that are matched. -/
def subject (text : List Char) : Array Nat := (text.map (·.toNat)).toArray

def Node.matchAt (node : Node) (subject : Array Nat) (position : Nat) : Option Place :=
  node.matches subject ⟨position, []⟩ some

def Node.startsWith (node : Node) (text : List Char) : Bool :=
  (node.matchAt (subject text) 0).isSome

end Conformance.Regex
