import Conformance.Outcome
import Conformance.Predicate
import Conformance.Regex.Matching
import Conformance.Value.Attribute

/-!
# Scalars

Texts are compared with a literal, searched for a pattern or handed to a predicate. Numbers must
be whole if that is asked, lie between their bounds, and match the expected value.
-/

namespace Conformance

namespace Schema

def callMatcher (calls : Interpretation) (matcher value : Value) : Outcome Bool :=
  match matcher with
  | .predicate label _ _ _ =>
    ⟨[.called label value], (calls matcher value).map Value.truthy⟩
  | _ => .fail (.type (.notCallable matcher.typeLabel))

def isIntegral (value : Value) : Except Fault Bool :=
  match value.number? with
  | some a => .ok a.isIntegral
  | none => .error (.noAttribute value.typeLabel "is_integer")

/-- Is a value exactly of the kind that a tag names? -/
def validateSimple (value schema : Value) : Bool :=
  match value.kind? with
  | some kind => Value.equal (.str kind.name) schema
  | none => schema.isNull

/-- Does a pattern match somewhere in a text or in bytes of its own sort? -/
def searchPattern (p : Pattern) (value : Value) : Except Fault Bool :=
  match p.source, value.text?, value with
  | .text _, some s, _ => .ok (p.node.search (s.toList.map Char.toNat).toArray)
  | .bytes _, some _, _ => .error (.type .bytesPatternOnText)
  | .bytes _, none, .bytes b => .ok (p.node.search (b.map UInt8.toNat).toArray)
  | .text _, none, .bytes _ => .error (.type .textPatternOnBytes)
  | _, none, _ => .error (.type (.subject value.typeLabel))

def validateString (calls : Interpretation) (value schema : Value) : Outcome Bool := do
  let matcher ← schema.part "matcher"
  match matcher with
  | .null => return true
  | .pattern p => searchPattern p value
  | _ =>
    match matcher.text? with
    | some _ => return Value.equal value matcher
    | none => callMatcher calls matcher value

/-- Does a value pass a bound? An absent bound is passed. -/
def outside (comparison : Value.Comparison) (value bound : Value) : Except Fault Bool :=
  if bound.isNull then .ok false else Value.compare comparison value bound

def outsideBounds (value schema : Value) : Except Fault Bool := do
  if ← outside .below value (← schema.part "min") then return true
  outside .above value (← schema.part "max")

/-- A whole literal is compared exactly, another within the tolerance. -/
def matchesLiteral (value literal schema : Value) : Except Fault Bool :=
  match literal with
  | .float x =>
    if x.isInteger then .ok (Value.equal value literal)
    else do
      let difference ← value.minus x
      Value.compare .below (.float difference.abs) (← schema.part "epsilon")
  | _ => .ok (Value.equal value literal)

/-- The conditions on a number before its expected value is looked at. -/
def admitsNumber (value schema : Value) : Except Fault Bool := do
  if (← schema.part "is_integer").truthy then
    if !(← isIntegral value) then return false
  return !(← outsideBounds value schema)

def validateNumber (calls : Interpretation) (value schema : Value) : Outcome Bool := do
  if !(← admitsNumber value schema) then return false
  let expected ← schema.part "value"
  if expected.isNull then return true
  else if expected.kind? = some .number then matchesLiteral value expected schema
  else callMatcher calls expected value

/-- A scalar of a structured schema: its kind, then the constraints for that kind. -/
def validateScalar (calls : Interpretation) (value schema : Value) : Outcome Bool := do
  let scalar ← schema.part "scalar"
  if !validateSimple value scalar then return false
  if Value.equal scalar (.str Kind.string.name) then
    let string ← schema.part "string"
    if !string.isNull then return ← validateString calls value string
  if Value.equal scalar (.str Kind.number.name) then
    let number ← schema.part "number"
    if !number.isNull then return ← validateNumber calls value number
  return true

end Schema

end Conformance
