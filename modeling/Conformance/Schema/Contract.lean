import Conformance.Outcome
import Conformance.Value.Attribute
import Conformance.Value.Printed

/-!
# The contract of schemas

A structured schema represents exactly one thing, and constrains only a scalar of the matching
kind. The contract is checked before a value is looked at, at every schema that is reached.
-/

namespace Conformance

namespace Schema

/-- The kind that a tag names. Whatever counts as a text can be a tag. -/
def tag? (schema : Value) : Option Kind := schema.text?.bind Kind.ofName?

def isSimple (schema : Value) : Bool := (tag? schema).isSome

def present (scalar array object enumeration : Value) : List Aggregation :=
  (if scalar.isNull then [] else [.scalar]) ++ (if array.isNull then [] else [.array])
    ++ (if object.isNull then [] else [.object])
    ++ (if enumeration.isNull then [] else [.enumeration])

def violated (violation : ContractViolation) : Except Fault α := .error (.contract violation)

/-- A number is matched by a number or a predicate. -/
def numberConstraint (number : Value) : Except Fault Unit := do
  let expected ← number.part "value"
  if !expected.isNull && expected.kind? != some .number && !expected.isCallable then
    violated (.numberValue expected.typeName)

/-- A text is matched by a text, a pattern or a predicate. -/
def stringConstraint (string : Value) : Except Fault Unit := do
  let matcher ← string.part "matcher"
  let fits :=
    match matcher with
    | .null | .pattern _ => true
    | _ => matcher.text?.isSome || matcher.isCallable
  if !fits then violated (.stringMatcher matcher.typeName)

def scalarContract (scalar string number : Value) : Except Fault Unit := do
  match tag? scalar with
  | none => violated (.unknownKind scalar.printed)
  | some kind =>
    if !string.isNull && kind != .string then violated (.misplaced .string scalar.displayed)
    if !number.isNull && kind != .number then violated (.misplaced .number scalar.displayed)
    if !number.isNull then numberConstraint number
    if !string.isNull then stringConstraint string

/-- What a schema represents, or how it breaks the contract. -/
def aggregation (schema : Value) : Except Fault Aggregation :=
  match schema with
  | .complexSchema scalar array object enumeration string number _ _ =>
    match present scalar array object enumeration with
    | [.scalar] => do
      scalarContract scalar string number
      return .scalar
    | [single] =>
      if string.isNull && number.isNull then .ok single else violated (.constraintsOn single)
    | found => violated (.aggregation found)
  | _ => violated (.notSchema schema.typeName schema.printed)

def contractLogger : String := "shapecheck.complex"

def debugLevel : Int := 10

def violationRecord (violation : ContractViolation) (printed : String) : LogRecord :=
  ⟨debugLevel, contractLogger, s!"Schema contract violation ({violation.message}): {printed}"⟩

/-- What a schema represents. A violation is logged with the schema, and a schema that cannot be
written hides it. -/
def inferAggregation (schema : Value) : Outcome Aggregation :=
  match aggregation schema with
  | .error (.contract violation) => do
    let printed ← schema.shown
    Outcome.log (violationRecord violation printed)
    .fail (.contract violation)
  | result => .ofExcept result

end Schema

end Conformance
