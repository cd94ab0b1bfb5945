import Conformance.Outcome
import Conformance.Value.Operations

/-!
# Enumerations

A value is enumerated when it strictly equals an option: equal, and of one primitive kind, or of
one type if it has no kind.
-/

namespace Conformance

namespace Schema

def sameType (left right : Value) : Bool := left.typeName == right.typeName

/-- Equality without coercion between kinds at the root. -/
def strictlyEqual (left right : Value) : Bool :=
  match left.kind? with
  | some kind => right.kind? == some kind && Value.equal left right
  | none => sameType left right && Value.equal left right

def validateEnum (value options : Value) : Except Fault Bool := do
  return (← options.iterate).any (strictlyEqual value)

end Schema

end Conformance
