import Conformance.Value

/-!
# Making schemas

A schema record is made from named fields. A field that is not given takes its default.
-/

namespace Conformance

namespace Schema

/-- The least tolerance that tells one from the next double, `2 ^ -52`. -/
def defaultEpsilon : Binary64 := .ofUnits false Binary64.one (Nat.pow 2 52)

/-- A record type: its name, its fields in order with their defaults, and the record that values
of the fields make. -/
structure RecordType where
  name : String
  fields : List (String × Option Value)
  make : List Value → Value

def complexType : RecordType where
  name := "ComplexSchema"
  fields := [("scalar", some .null), ("array", some .null), ("object", some .null),
    ("enum", some .null), ("string", some .null), ("number", some .null),
    ("optional", some (.bool false)), ("nullable", some (.bool false))]
  make
    | [scalar, array, object, enumeration, string, number, optional, nullable] =>
      .complexSchema scalar array object enumeration string number optional nullable
    | _ => .null

def arrayType : RecordType where
  name := "ArraySchema"
  fields := [("item_type", none), ("length", some .null), ("min_length", some .null),
    ("max_length", some .null), ("matcher", some .null)]
  make
    | [itemType, length, minLength, maxLength, matcher] =>
      .arraySchema itemType length minLength maxLength matcher
    | _ => .null

def objectType : RecordType where
  name := "ObjectSchema"
  fields := [("members", some (.dict [])), ("allow_extra_members", some (.bool false)),
    ("matcher", some .null)]
  make
    | [members, allowExtraMembers, matcher] => .objectSchema members allowExtraMembers matcher
    | _ => .null

def stringType : RecordType where
  name := "StringSchema"
  fields := [("matcher", some .null)]
  make
    | [matcher] => .stringSchema matcher
    | _ => .null

def numberType : RecordType where
  name := "NumberSchema"
  fields := [("value", some .null), ("min", some .null), ("max", some .null),
    ("is_integer", some (.bool false)), ("epsilon", some (.float defaultEpsilon))]
  make
    | [value, min, max, isInteger, epsilon] => .numberSchema value min max isInteger epsilon
    | _ => .null

/-- The value of a field: given, by default, or missing. -/
def RecordType.field (type : RecordType) (given : List (String × Value))
    (field : String × Option Value) : Except Fault Value :=
  match (given.find? (·.1 == field.1)).map (·.2), field.2 with
  | some value, _ => .ok value
  | none, some value => .ok value
  | none, none => .error (.type (.missingField type.name field.1))

def RecordType.ofFields (type : RecordType) (given : List (String × Value)) :
    Except Fault Value := do
  match given.find? fun g => !type.fields.any (·.1 == g.1) with
  | some (field, _) => .error (.type (.unexpectedField type.name field))
  | none => return type.make (← type.fields.mapM (type.field given))

/-- Fields of a schema cannot be assigned; plain data have no such field. -/
def assign (value : Value) (field : String) : Fault :=
  match value with
  | .complexSchema _ _ _ _ _ _ _ _ | .arraySchema _ _ _ _ _ | .objectSchema _ _ _
  | .stringSchema _ | .numberSchema _ _ _ _ _ => .frozenField field
  | _ => .noAttribute value.typeLabel field

end Schema

end Conformance
