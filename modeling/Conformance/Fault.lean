import Conformance.Text.Quoted
import Conformance.Text.Utf8

/-!
# Faults

Everything that can end a computation without an answer, by cause. `Fault.category` sorts the
causes and `Fault.message` words them.
-/

namespace Conformance

/-- What a structured schema can represent. -/
inductive Aggregation
  | scalar
  | array
  | object
  | enumeration
  deriving DecidableEq

def Aggregation.name : Aggregation → String
  | .scalar => "scalar"
  | .array => "array"
  | .object => "object"
  | .enumeration => "enum"

inductive Kind
  | string
  | number
  | boolean
  deriving DecidableEq

def Kind.name : Kind → String
  | .string => "string"
  | .number => "number"
  | .boolean => "boolean"

def Kind.all : List Kind := [.string, .number, .boolean]

def Kind.ofName? (name : String) : Option Kind := Kind.all.find? (·.name == name)

/-- The list of kinds as messages show it. -/
def Kind.listing : String :=
  "(" ++ ", ".intercalate (Kind.all.map fun kind => Text.quoted kind.name) ++ ")"

/-- Ways in which a schema breaks the contract of schemas. Texts are type names or show the
offending part. -/
inductive ContractViolation
  | notSchema (typeName printed : String)
  | aggregation (found : List Aggregation)
  | unknownKind (printed : String)
  | misplaced (constraint : Kind) (scalar : String)
  | numberValue (typeName : String)
  | stringMatcher (typeName : String)
  | constraintsOn (aggregation : Aggregation)
  deriving DecidableEq

def ContractViolation.message : ContractViolation → String
  | .notSchema typeName printed =>
    s!"schema must be one of {Kind.listing} or a ComplexSchema, got {typeName}: {printed}"
  | .aggregation found =>
    let names := if found.isEmpty then "none" else ", ".intercalate (found.map Aggregation.name)
    s!"schema must define exactly one of array/object/enum/scalar (found: {names})"
  | .unknownKind printed => s!"Unknown scalar kind {printed}, expected one of {Kind.listing}"
  | .misplaced constraint scalar =>
    s!"'{constraint.name}' constraints given for a {scalar} scalar"
  | .numberValue typeName => s!"number 'value' must be a number or a predicate, got {typeName}"
  | .stringMatcher typeName =>
    s!"string 'matcher' must be a string, a compiled pattern or a predicate, got {typeName}"
  | .constraintsOn kind =>
    s!"'string'/'number' constraints are only allowed on scalar schemas, not {kind.name}"

inductive ReferenceFault
  | malformed (printed : String)
  | emptyPart (printed : String)
  | notImportable (moduleName reason : String)
  | noAttribute (moduleName path : String)
  | notSchema (reference typeName : String)
  deriving DecidableEq

def ReferenceFault.message : ReferenceFault → String
  | .malformed printed =>
    s!"Invalid schema reference: {printed}. Expected format: 'package.module:ATTRIBUTE'"
  | .emptyPart printed =>
    s!"Invalid schema reference: {printed}. Module and attribute cannot be empty"
  | .notImportable moduleName reason => s!"Cannot import module '{moduleName}': {reason}"
  | .noAttribute moduleName path => s!"Module '{moduleName}' has no attribute '{path}'"
  | .notSchema reference typeName => s!"'{reference}' is not a schema (got {typeName})"

/-- What a file system says of a path, given as it is quoted, that leads through what is closed. -/
def deniedText (printed : String) : String := s!"[Errno 13] Permission denied: {printed}"

/-- Why the bytes of a file cannot be had: it may not be opened, or reading it fails. -/
inductive ReadFault
  | denied
  | failed (reason : String)
  deriving DecidableEq

def ReadFault.message (path : String) : ReadFault → String
  | .denied => deniedText (Text.quoted path)
  | .failed reason => reason

inductive DocumentFault
  | notFound (path : String)
  | notFile (path : String)
  | unreadable (path : String) (fault : ReadFault)
  | notText (path : String) (fault : Text.Utf8Fault)
  | invalidJson (source problem : String)
  | invalidYaml (source problem : String)
  deriving DecidableEq

def DocumentFault.message : DocumentFault → String
  | .notFound path => s!"Document not found: {path}"
  | .notFile path => s!"Path is not a file: {path}"
  | .unreadable path fault => s!"Failed to read document {path}: {fault.message path}"
  | .notText path fault => s!"Failed to read document {path}: {fault.message}"
  | .invalidJson source problem => s!"Invalid JSON in document {source}: {problem}"
  | .invalidYaml source problem => s!"Failed to parse document {source}: {problem}"

/-- Operations applied to values of a type that does not have them. -/
inductive TypeFault
  | unordered (operator left right : String)
  | operands (operator left right : String)
  | notCallable (typeName : String)
  | notIterable (typeName : String)
  | notContainer (typeName : String)
  | unhashable (typeName : String)
  | noLength (typeName : String)
  | substring (typeName : String)
  | subsequence (typeName : String)
  | subject (typeName : String)
  | textPatternOnBytes
  | bytesPatternOnText
  | unexpectedField (record field : String)
  | missingField (record field : String)
  | notSerializable (typeName : String)
  | keyNotSerializable (typeName : String)
  | relativeReference (name : String)
  | naiveAndAware
  | dateAndTime (left right : String)
  | template (problem : String)
  deriving DecidableEq

def TypeFault.message : TypeFault → String
  | .unordered operator left right =>
    s!"'{operator}' not supported between instances of '{left}' and '{right}'"
  | .operands operator left right =>
    s!"unsupported operand type(s) for {operator}: '{left}' and '{right}'"
  | .notCallable typeName => s!"'{typeName}' object is not callable"
  | .notIterable typeName => s!"'{typeName}' object is not iterable"
  | .notContainer typeName => s!"argument of type '{typeName}' is not iterable"
  | .unhashable typeName => s!"unhashable type: '{typeName}'"
  | .noLength typeName => s!"object of type '{typeName}' has no len()"
  | .substring typeName => s!"'in <string>' requires string as left operand, not {typeName}"
  | .subsequence typeName => s!"a bytes-like object is required, not '{typeName}'"
  | .subject typeName => s!"expected string or bytes-like object, got '{typeName}'"
  | .textPatternOnBytes => "cannot use a string pattern on a bytes-like object"
  | .bytesPatternOnText => "cannot use a bytes pattern on a string-like object"
  | .unexpectedField record field =>
    s!"{record}.__init__() got an unexpected keyword argument '{field}'"
  | .missingField record field =>
    s!"{record}.__init__() missing 1 required positional argument: '{field}'"
  | .notSerializable typeName => s!"Object of type {typeName} is not JSON serializable"
  | .keyNotSerializable typeName =>
    s!"keys must be str, int, float, bool or None, not {typeName}"
  | .relativeReference name =>
    s!"the 'package' argument is required to perform a relative import for {Text.quoted name}"
  | .naiveAndAware => "can't compare offset-naive and offset-aware datetimes"
  | .dateAndTime left right => s!"can't compare {left} to {right}"
  | .template problem => problem

/-- Values of the right type that an operation cannot take. -/
inductive ValueFault
  | invalidInteger (base : Nat) (printed : String)
  | invalidDecimal (printed : String)
  | tooManyDigits (count : Nat)
  | integerTooLong
  | month
  | day
  | hour
  | minute
  | second
  | year (value : Nat)
  | offset (printed : String)
  | codePoint
  | byteRange
  | nanToInteger
  | template (problem : String)
  deriving DecidableEq

/-- Integers of more decimal digits are neither read nor written. -/
def digitLimit : Nat := 4300

def ValueFault.message : ValueFault → String
  | .invalidInteger base printed =>
    s!"invalid literal for int() with base {base}: {printed}"
  | .invalidDecimal printed => s!"could not convert string to float: {printed}"
  | .tooManyDigits count =>
    s!"Exceeds the limit ({digitLimit} digits) for integer string conversion: value has {count} "
      ++ "digits; use sys.set_int_max_str_digits() to increase the limit"
  | .integerTooLong =>
    s!"Exceeds the limit ({digitLimit} digits) for integer string conversion; "
      ++ "use sys.set_int_max_str_digits() to increase the limit"
  | .month => "month must be in 1..12"
  | .day => "day is out of range for month"
  | .hour => "hour must be in 0..23"
  | .minute => "minute must be in 0..59"
  | .second => "second must be in 0..59"
  | .year value => s!"year {value} is out of range"
  | .offset printed =>
    "offset must be a timedelta strictly between -timedelta(hours=24) and "
      ++ s!"timedelta(hours=24), not {printed}."
  | .codePoint => "chr() arg not in range(0x110000)"
  | .byteRange => "byte must be in range(0, 256)"
  | .nanToInteger => "cannot convert float NaN to integer"
  | .template problem => problem

/-- Numbers beyond the range that they are needed in. -/
inductive OverflowFault
  | integerToDouble
  | integerToCode
  | integerToSize
  | infinityToInteger
  | characterCode (limit : String)
  deriving DecidableEq

def OverflowFault.message : OverflowFault → String
  | .integerToDouble => "int too large to convert to float"
  | .integerToCode => "Python int too large to convert to C int"
  | .integerToSize => "Python int too large to convert to C ssize_t"
  | .infinityToInteger => "cannot convert float infinity to integer"
  | .characterCode limit => s!"%c arg not in range({limit})"

/-- The classes of faults that callers tell apart. -/
inductive Category
  | any
  | library
  | contract
  | reference
  | document
  | type
  | attribute
  | value
  | key
  | index
  | overflow
  | zeroDivision
  | fileSystem
  | frozenField
  | runtime
  deriving DecidableEq

def Category.parents : Category → List Category
  | .any => []
  | .contract => [.library, .value]
  | .reference | .document => [.library]
  | .frozenField => [.attribute]
  | _ => [.any]

/-- A category is covered by itself and by what covers a parent; three steps reach the top. -/
def Category.coveredWithin : Nat → Category → Category → Bool
  | 0, category, base => category == base
  | steps + 1, category, base =>
    category == base || category.parents.any fun parent => coveredWithin steps parent base

def Category.covered (category base : Category) : Bool := coveredWithin 3 category base

inductive Fault
  | contract (violation : ContractViolation)
  | reference (cause : ReferenceFault)
  | document (cause : DocumentFault)
  | type (cause : TypeFault)
  | value (cause : ValueFault)
  | noAttribute (typeName name : String)
  | notMatched (name : String)
  | unknownKey (printed : String)
  | indexOutOfRange
  | overflow (cause : OverflowFault)
  | integerModuloZero
  | floatModuloZero
  | nameTooLong (printed : String)
  | permissionDenied (printed : String)
  | frozenField (name : String)
  | tooDeep
  | raised (category : Category) (text : String)
  deriving DecidableEq

def Fault.category : Fault → Category
  | .contract _ => .contract
  | .reference _ => .reference
  | .document _ => .document
  | .type _ => .type
  | .value _ => .value
  | .noAttribute _ _ => .attribute
  | .notMatched _ => .attribute
  | .unknownKey _ => .key
  | .indexOutOfRange => .index
  | .overflow _ => .overflow
  | .integerModuloZero => .zeroDivision
  | .floatModuloZero => .zeroDivision
  | .nameTooLong _ => .fileSystem
  | .permissionDenied _ => .fileSystem
  | .frozenField _ => .frozenField
  | .tooDeep => .runtime
  | .raised category _ => category

def Fault.message : Fault → String
  | .contract violation => violation.message
  | .reference cause => cause.message
  | .document cause => cause.message
  | .type cause => cause.message
  | .value cause => cause.message
  | .noAttribute typeName name => s!"'{typeName}' object has no attribute '{name}'"
  | .notMatched name => s!"'NoneType' object has no attribute '{name}'"
  | .unknownKey printed => printed
  | .indexOutOfRange => "string index out of range"
  | .overflow cause => cause.message
  | .integerModuloZero => "integer modulo by zero"
  | .floatModuloZero => "float modulo"
  | .nameTooLong printed => s!"[Errno 36] File name too long: {printed}"
  | .permissionDenied printed => deniedText printed
  | .frozenField name => s!"cannot assign to field '{name}'"
  | .tooDeep => "maximum recursion depth exceeded"
  | .raised _ text => text

/-- What keeps a reader from giving the value of a text: the text is malformed, or it breaks off with
a fault of its own. -/
inductive Refusal
  | malformed (problem : String)
  | brokenOff (fault : Fault)
  deriving DecidableEq

/-- A refusal as the fault of a load; a malformed text is a fault of its document. -/
def Refusal.toFault (invalid : String → DocumentFault) : Refusal → Fault
  | .malformed problem => .document (invalid problem)
  | .brokenOff fault => fault

end Conformance
