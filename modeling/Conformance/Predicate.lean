import Conformance.Value.Filling

/-!
# Predicates

A predicate is a value that can be called with one value. An interpretation says how calls end;
the standard one carries out the predicate's action.
-/

namespace Conformance

/-- How a call of the first value with the second ends. -/
abbrev Interpretation := Value → Value → Except Fault Value

namespace Action

/-- Carries out an action for the value `x`; `argument` belongs to the predicate. -/
def run (action : Action) (argument x : Value) : Except Fault Value :=
  match action with
  | .constant => .ok argument
  | .fail category => .error (.raised category argument.displayed)
  | .contains => (x.contains argument).map .bool
  | .length => x.length.map fun n => .int n
  | .equals => .ok (.bool (Value.equal x argument))
  | .exceeds => (Value.compare .above x argument).map .bool
  | .remainder => x.remainder argument
  | .entry => x.entry argument
  | .ascending => do
    let items ← x.iterate
    let sorted ← Value.isSorted items
    return .bool (sorted && x.items?.isSome)

end Action

/-- Calls carry out the action of the predicate called. -/
def standard : Interpretation := fun callee x =>
  match callee with
  | .predicate _ _ action argument => action.run argument x
  | _ => .error (.type (.notCallable callee.typeLabel))

end Conformance
