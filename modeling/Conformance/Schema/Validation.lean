import Conformance.Schema.Contract
import Conformance.Schema.Enumeration
import Conformance.Schema.Scalar

/-!
# Validation

`validate` decides whether a value conforms to a schema. It recurs on the schema; the data are
opened one layer at a time, so a document that contains itself needs no special care.
-/

namespace Conformance

namespace Schema

def admitsLength (size : Nat) (length minLength maxLength : Value) : Except Fault Bool := do
  if !length.isNull && !Value.equal (.int size) length then return false
  if ← outside .below (.int size) minLength then return false
  return !(← outside .above (.int size) maxLength)

/-- A matcher over a whole container, passed when there is none. -/
def passesMatcher (calls : Interpretation) (matcher value : Value) : Outcome Bool :=
  if matcher.isNull then pure true else callMatcher calls matcher value

def admitsArray (calls : Interpretation) (value : Value) (size : Nat)
    (length minLength maxLength matcher : Value) : Outcome Bool := do
  if !(← admitsLength size length minLength maxLength) then return false
  passesMatcher calls matcher value

/-- Are all keys of a record declared? The first that is not decides. -/
def declared (members : Value) : Value.Entries → Except Fault Bool
  | [] => .ok true
  | (name, _) :: rest => do
    if ← members.contains name then declared members rest else return false

def admitsObject (calls : Interpretation) (value : Value) (entries : Value.Entries)
    (members allowExtraMembers matcher : Value) : Outcome Bool := do
  if !allowExtraMembers.truthy then
    if !(← declared members entries) then return false
  passesMatcher calls matcher value

def memberValue (entries : Value.Entries) (name : Value) : Value :=
  (Value.find? entries name).getD .missing

mutual

/-- Does a value conform to a schema? -/
def validate (calls : Interpretation) (value schema : Value) : Outcome Bool :=
  match schema with
  | .complexSchema scalar array object enumeration string number optional nullable => do
    let whole := Value.complexSchema scalar array object enumeration string number optional nullable
    let aggregation ← inferAggregation whole
    if value.isNull then return nullable.isTrue
    if value.isMissing then return optional.isTrue
    match aggregation with
    | .array => validateArray calls value array
    | .object => validateObject calls value object
    | .enumeration => validateEnum value enumeration
    | .scalar => validateScalar calls value whole
  | schema =>
    if isSimple schema then pure (validateSimple value schema)
    else (inferAggregation schema).bind fun _ => pure true
termination_by structural schema

def validateArray (calls : Interpretation) (value schema : Value) : Outcome Bool :=
  match schema with
  | .arraySchema itemType length minLength maxLength matcher =>
    match value.items? with
    | none => pure false
    | some items => do
      if !(← admitsArray calls value items.length length minLength maxLength matcher) then
        return false
      Outcome.all (fun item => validate calls item itemType) items
  | schema =>
    match value.items? with
    | none => pure false
    | some _ => .fail (.noAttribute schema.typeLabel "length")
termination_by structural schema

def validateObject (calls : Interpretation) (value schema : Value) : Outcome Bool :=
  match schema with
  | .objectSchema members allowExtraMembers matcher =>
    match value.entries? with
    | none => pure false
    | some entries => do
      if !(← admitsObject calls value entries members allowExtraMembers matcher) then
        return false
      validateMembers calls entries members
  | schema =>
    match value.entries? with
    | none => pure false
    | some _ => .fail (.noAttribute schema.typeLabel "members")
termination_by structural schema

def validateMembers (calls : Interpretation) (entries : Value.Entries) (members : Value) :
    Outcome Bool :=
  match members with
  | .dict declared | .orderedDict declared => validateEntries calls entries declared
  | members => .fail (.noAttribute members.typeLabel "items")
termination_by structural members

def validateEntries (calls : Interpretation) (entries : Value.Entries)
    (declared : List (Value × Value)) : Outcome Bool :=
  match declared with
  | [] => pure true
  | (name, schema) :: rest =>
    (validate calls (memberValue entries name) schema).bind fun passed =>
      if passed then validateEntries calls entries rest else pure false
termination_by structural declared

end

/-- Validation against a structured schema only: a tag is none. -/
def validateComplex (calls : Interpretation) (value schema : Value) : Outcome Bool :=
  match schema with
  | .complexSchema _ _ _ _ _ _ _ _ => validate calls value schema
  | schema => (inferAggregation schema).bind fun _ => pure true

def validatorLogger : String := "shapecheck.validator"

def creationRecord (printed : String) : LogRecord :=
  ⟨debugLevel, validatorLogger, s!"Creating validator for schema: {printed}"⟩

/-- Announces a validator for a schema. There is none for a schema that cannot be written. -/
def announce (schema : Value) : Outcome Unit := do
  let printed ← schema.shown
  Outcome.log (creationRecord printed)

/-- Applies one validator to several values; each ends on its own. -/
def validateEach (calls : Interpretation) (schema : Value) :
    List Value → Outcome (List (Except Fault Bool))
  | [] => pure []
  | value :: rest =>
    let first := validate calls value schema
    let others := validateEach calls schema rest
    ⟨first.events ++ others.events, others.result.map (first.result :: ·)⟩

def createAndValidate (calls : Interpretation) (schema : Value) (values : List Value) :
    Outcome (List (Except Fault Bool)) := do
  announce schema
  validateEach calls schema values

end Schema

end Conformance
