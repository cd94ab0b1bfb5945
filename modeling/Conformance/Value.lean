import Conformance.Binary64
import Conformance.Calendar
import Conformance.Fault
import Conformance.Regex.Syntax

/-!
# Values

One type holds data, schemas and all that either may contain. A schema's fields hold values of
any type, because what a field must hold is part of what is checked.

A document that contains itself is a `recursive` value: a heap of containers whose members point
into the heap by `link`, with the entry that the value stands for. `Value.layer` opens one level
of it, so its members are again closed values.
-/

namespace Conformance

/-- How a member of an enumeration also counts as a plain value. -/
inductive EnumBase
  | plain
  | integer
  | text
  deriving DecidableEq

inductive EnumValue
  | integer (n : Int)
  | text (s : String)
  deriving DecidableEq

structure EnumMember where
  enumeration : String
  name : String
  base : EnumBase
  value : EnumValue
  deriving DecidableEq

/-- The text or the bytes a pattern was written as. -/
inductive PatternSource
  | text (s : String)
  | bytes (b : List UInt8)
  deriving DecidableEq

structure Pattern where
  source : PatternSource
  flags : Regex.Flags
  node : Regex.Node
  deriving DecidableEq

/-- What a predicate does with the value it is given, and with its own argument. -/
inductive Action
  | constant
  | fail (category : Category)
  | contains
  | length
  | equals
  | exceeds
  | remainder
  | entry
  | ascending
  deriving DecidableEq

inductive Value
  | null
  | bool (b : Bool)
  | int (n : Int)
  | float (x : Binary64)
  | str (s : String)
  | bytes (b : List UInt8)
  | list (items : List Value)
  | listSubtype (items : List Value)
  | tuple (items : List Value)
  | dict (entries : List (Value × Value))
  | orderedDict (entries : List (Value × Value))
  | set (items : List Value)
  | missing
  | member (m : EnumMember)
  | pattern (p : Pattern)
  | predicate (label name : String) (action : Action) (argument : Value)
  | date (d : Date)
  | moment (m : Moment)
  | complexSchema
      (scalar array object enumeration string number optional nullable : Value)
  | arraySchema (itemType length minLength maxLength matcher : Value)
  | objectSchema (members allowExtraMembers matcher : Value)
  | stringSchema (matcher : Value)
  | numberSchema (value min max isInteger epsilon : Value)
  | attributes (named : List (String × Value))
  | foreign (typeName : String)
  | recursive (heap : List Value) (entry : Nat)
  | link (entry : Nat)

namespace Value

instance : Inhabited Value := ⟨.null⟩

/-- A record: its keys and values in order. -/
abbrev Entries := List (Value × Value)

/-- A member of a heap entry as a closed value. -/
def attach (heap : List Value) : Value → Value
  | .link entry => .recursive heap entry
  | value => value

/-- Opens the outermost container of a recursive value; every other value is open already. -/
def layer : Value → Value
  | .recursive heap entry =>
    match heap[entry]? with
    | some (.list items) => .list (items.map (attach heap))
    | some (.tuple items) => .tuple (items.map (attach heap))
    | some (.dict entries) => .dict (entries.map fun e => (e.1, attach heap e.2))
    | some value => value
    | none => .null
  | value => value

def typeName : Value → String
  | .null => "NoneType"
  | .bool _ => "bool"
  | .int _ => "int"
  | .float _ => "float"
  | .str _ => "str"
  | .bytes _ => "bytes"
  | .list _ => "list"
  | .listSubtype _ => "ListSub"
  | .tuple _ => "tuple"
  | .dict _ => "dict"
  | .orderedDict _ => "OrderedDict"
  | .set _ => "set"
  | .missing => "_MissingType"
  | .member m => m.enumeration
  | .pattern _ => "Pattern"
  | .predicate _ _ _ _ => "Fn"
  | .date _ => "date"
  | .moment _ => "datetime"
  | .complexSchema _ _ _ _ _ _ _ _ => "ComplexSchema"
  | .arraySchema _ _ _ _ _ => "ArraySchema"
  | .objectSchema _ _ _ => "ObjectSchema"
  | .stringSchema _ => "StringSchema"
  | .numberSchema _ _ _ _ _ => "NumberSchema"
  | .attributes _ => "SimpleNamespace"
  | .foreign name => name
  | .recursive heap entry =>
    match heap[entry]? with
    | some (.tuple _) => "tuple"
    | some (.dict _) => "dict"
    | _ => "list"
  | .link _ => "NoneType"

/-- The type's name with the family it comes from, as faults show it. -/
def typeLabel (value : Value) : String :=
  match value with
  | .orderedDict _ => "collections.OrderedDict"
  | .pattern _ => "re.Pattern"
  | .date _ => "datetime.date"
  | .moment _ => "datetime.datetime"
  | .attributes _ => "types.SimpleNamespace"
  | _ => value.typeName

inductive Number
  | int (n : Int)
  | float (x : Binary64)
  deriving DecidableEq

/-- The number a value counts as; truth values count as zero and one. -/
def number? : Value → Option Number
  | .bool b => some (.int (if b then 1 else 0))
  | .int n => some (.int n)
  | .float x => some (.float x)
  | .member m =>
    match m.base, m.value with
    | .integer, .integer n => some (.int n)
    | _, _ => none
  | _ => none

def text? : Value → Option String
  | .str s => some s
  | .member m =>
    match m.base, m.value with
    | .text, .text s => some s
    | _, _ => none
  | _ => none

/-- The items of a list, also of a list subtype. -/
def items? (value : Value) : Option (List Value) :=
  match value.layer with
  | .list items | .listSubtype items => some items
  | _ => none

def entries? (value : Value) : Option Entries :=
  match value.layer with
  | .dict entries => some entries
  | _ => none

def isNull : Value → Bool
  | .null => true
  | _ => false

def isMissing : Value → Bool
  | .missing => true
  | _ => false

/-- Is it the truth value true itself? -/
def isTrue : Value → Bool
  | .bool true => true
  | _ => false

def isFalse : Value → Bool
  | .bool false => true
  | _ => false

def truthy : Value → Bool
  | .null | .missing => false
  | .bool b => b
  | .int n => n != 0
  | .float x => !x.isZero
  | .str s => !s.isEmpty
  | .bytes b => !b.isEmpty
  | .list items | .listSubtype items | .tuple items | .set items => !items.isEmpty
  | .dict entries | .orderedDict entries => !entries.isEmpty
  | .member m =>
    match m.base, m.value with
    | .integer, .integer n => n != 0
    | .text, .text s => !s.isEmpty
    | _, _ => true
  | _ => true

/-- The primitive kind of a value. Truth values are no numbers here. -/
def kind? : Value → Option Kind
  | .bool _ => some .boolean
  | .int _ | .float _ => some .number
  | .str _ => some .string
  | .member m =>
    match m.base, m.value with
    | .integer, .integer _ => some .number
    | .text, .text _ => some .string
    | _, _ => none
  | _ => none

def isCallable : Value → Bool
  | .predicate _ _ _ _ => true
  | _ => false

end Value

end Conformance
