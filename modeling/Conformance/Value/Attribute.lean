import Conformance.Value

/-!
# Attributes

The named parts of a value. A schema has its fields, a namespace what was put into it, and plain
data the operations of its type, of which only the name of their own type is known.
-/

namespace Conformance

namespace Value

/-- An operation of a type, not a value to check with. -/
def operation : Value := .foreign "builtin_function_or_method"

def textOperations : List String :=
  ["capitalize", "casefold", "center", "count", "encode", "endswith", "expandtabs", "find",
    "format", "format_map", "index", "isalnum", "isalpha", "isascii", "isdecimal", "isdigit",
    "isidentifier", "islower", "isnumeric", "isprintable", "isspace", "istitle", "isupper", "join",
    "ljust", "lower", "lstrip", "maketrans", "partition", "removeprefix", "removesuffix",
    "replace", "rfind", "rindex", "rjust", "rpartition", "rsplit", "rstrip", "split",
    "splitlines", "startswith", "strip", "swapcase", "title", "translate", "upper", "zfill"]

def listOperations : List String :=
  ["append", "clear", "copy", "count", "extend", "index", "insert", "pop", "remove", "reverse",
    "sort"]

def recordOperations : List String :=
  ["clear", "copy", "fromkeys", "get", "items", "keys", "pop", "popitem", "setdefault", "update",
    "values"]

def integerOperations : List String :=
  ["as_integer_ratio", "bit_count", "bit_length", "conjugate", "from_bytes", "to_bytes"]

def floatOperations : List String :=
  ["as_integer_ratio", "conjugate", "fromhex", "hex", "is_integer"]

def tupleOperations : List String := ["count", "index"]

def operationIn (names : List String) (name : String) : Option Value :=
  if names.contains name then some operation else none

def integerPart? (n : Int) (name : String) : Option Value :=
  if name = "real" ∨ name = "numerator" then some (.int n)
  else if name = "imag" then some (.int 0)
  else if name = "denominator" then some (.int 1)
  else operationIn integerOperations name

def EnumValue.toValue : EnumValue → Value
  | .integer n => .int n
  | .text s => .str s

def commonOperators : List String :=
  ["__eq__", "__ne__", "__lt__", "__gt__", "__le__", "__ge__", "__hash__", "__init__", "__repr__",
    "__str__", "__setattr__", "__delattr__", "__getattribute__"]

def commonOperations : List String :=
  ["__dir__", "__format__", "__getstate__", "__init_subclass__", "__new__", "__reduce__",
    "__reduce_ex__", "__sizeof__", "__subclasshook__"]

def schemaOperators : List String :=
  ["__eq__", "__hash__", "__init__", "__repr__", "__setattr__", "__delattr__"]

def isSchemaRecord : Value → Bool
  | .complexSchema _ _ _ _ _ _ _ _ | .arraySchema _ _ _ _ _ | .objectSchema _ _ _
  | .stringSchema _ | .numberSchema _ _ _ _ _ => true
  | _ => false

/-- Values that can be changed have no hash. -/
def isChangeable : Value → Bool
  | .list _ | .listSubtype _ | .dict _ | .orderedDict _ | .attributes _ => true
  | _ => false

def isUndocumented : Value → Bool
  | .null | .member _ | .listSubtype _ | .predicate _ _ _ _ => true
  | _ => false

def commonPart? (value : Value) (name : String) : Option Value :=
  if name = "__class__" then
    match value with
    | .member _ => some (.foreign "EnumType")
    | _ => some (.foreign "type")
  else if name = "__doc__" then some (if value.isUndocumented then .null else .foreign "str")
  else if name = "__hash__" && value.isChangeable then some .null
  else if value.isSchemaRecord && schemaOperators.contains name then some (.foreign "method")
  else if commonOperators.contains name then some (.foreign "method-wrapper")
  else operationIn commonOperations name

def ownPart? (value : Value) (name : String) : Option Value :=
  match value with
  | .complexSchema scalar array object enumeration string number optional nullable =>
    match name with
    | "scalar" => some scalar
    | "array" => some array
    | "object" => some object
    | "enum" => some enumeration
    | "string" => some string
    | "number" => some number
    | "optional" => some optional
    | "nullable" => some nullable
    | _ => none
  | .arraySchema itemType length minLength maxLength matcher =>
    match name with
    | "item_type" => some itemType
    | "length" => some length
    | "min_length" => some minLength
    | "max_length" => some maxLength
    | "matcher" => some matcher
    | _ => none
  | .objectSchema members allowExtraMembers matcher =>
    match name with
    | "members" => some members
    | "allow_extra_members" => some allowExtraMembers
    | "matcher" => some matcher
    | _ => none
  | .stringSchema matcher => if name = "matcher" then some matcher else none
  | .numberSchema value min max isInteger epsilon =>
    match name with
    | "value" => some value
    | "min" => some min
    | "max" => some max
    | "is_integer" => some isInteger
    | "epsilon" => some epsilon
    | _ => none
  | .attributes named => (named.find? (·.1 == name)).map (·.2)
  | .member m =>
    if name = "value" then some (EnumValue.toValue m.value)
    else if name = "name" then some (.str m.name)
    else
      match m.base, m.value with
      | .text, _ => operationIn textOperations name
      | .integer, .integer n => integerPart? n name
      | _, _ => none
  | .bool b => integerPart? (if b then 1 else 0) name
  | .int n => integerPart? n name
  | .float x =>
    if name = "real" then some (.float x)
    else if name = "imag" then some (.float .zero)
    else operationIn floatOperations name
  | .str _ => operationIn textOperations name
  | .list _ | .listSubtype _ => operationIn listOperations name
  | .tuple _ => operationIn tupleOperations name
  | .dict _ => operationIn recordOperations name
  | .orderedDict _ => operationIn ("move_to_end" :: recordOperations) name
  | _ => none

def part? (value : Value) (name : String) : Option Value :=
  (value.ownPart? name).or (value.commonPart? name)

def part (value : Value) (name : String) : Except Fault Value :=
  match value.part? name with
  | some part => .ok part
  | none => .error (.noAttribute value.typeLabel name)

end Value

end Conformance
