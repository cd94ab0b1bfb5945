import Conformance.Binary64.Places
import Conformance.Text.Template
import Conformance.Value.Operations

/-!
# Filling templates

Slots with names are filled from a record, all others in turn from a row of values. A template of
bytes takes bytes where one of text shows any value.
-/

namespace Conformance

namespace Value

inductive Medium
  | text
  | bytes
  deriving DecidableEq

def unfit (problem : String) : Fault := .type (.template problem)

def takeNext : List Value → Except Fault (Value × List Value)
  | value :: row => .ok (value, row)
  | [] => .error (unfit "not enough arguments for format string")

structure AmountRule where
  limit : Nat
  noun : String
  overflow : OverflowFault

def widthRule : AmountRule := ⟨Nat.pow 2 63, "width", .integerToSize⟩

def precisionRule : AmountRule := ⟨Nat.pow 2 31, "precision", .integerToCode⟩

def takeAmount (rule : AmountRule) (amount : Option Text.Amount) (row : List Value) :
    Except Fault (Option Int × List Value) :=
  match amount with
  | none => .ok (none, row)
  | some (.stated n) =>
    if n < rule.limit then .ok (some n, row)
    else .error (.value (.template s!"{rule.noun} too big"))
  | some .taken => do
    let (value, row) ← takeNext row
    match value.number? with
    | some (.int n) =>
      if n.natAbs < rule.limit then return (some n, row) else .error (.overflow rule.overflow)
    | _ => .error (unfit "* wants int")

def codes (text : List Char) : List UInt8 := text.map fun c => UInt8.ofNat c.toNat

def ofCodes (bytes : List UInt8) : List Char := bytes.map fun byte => Char.ofNat byte.toNat

/-- Can slots with names be filled from a value? -/
def isSource (medium : Medium) (argument : Value) : Bool :=
  match argument.layer with
  | .dict _ | .orderedDict _ | .list _ | .listSubtype _ => true
  | .bytes _ => medium == .text
  | _ => false

def named (medium : Medium) (argument : Value) (name : String) : Except Fault Value :=
  let key : Value :=
    match medium with
    | .text => .str name
    | .bytes => .bytes (codes name.toList)
  if isSource medium argument then
    match argument.layer with
    | .dict entries | .orderedDict entries =>
      match find? entries key with
      | some value => .ok value
      | none => .error (.unknownKey key.printed)
    | .bytes _ => .error (unfit "byte indices must be integers or slices, not str")
    | _ => .error (unfit s!"list indices must be integers or slices, not {key.typeName}")
  else .error (unfit "format requires a mapping")

def escaped (text : String) : List Char :=
  text.toList.flatMap fun c => if c.toNat < 0x80 then [c] else Text.escapeCode c.toNat

def shownIn (medium : Medium) (conversion : Char) (value : Value) : Except Fault (List Char) :=
  match medium, conversion with
  | .text, 's' => value.told.map String.toList
  | .text, 'r' => value.shown.map String.toList
  | .bytes, 's' | .bytes, 'b' =>
    match value with
    | .bytes b => .ok (ofCodes b)
    | _ =>
      .error <| unfit <|
        "%b requires a bytes-like object, or an object that implements __bytes__, not "
          ++ s!"'{value.typeLabel}'"
  | _, _ => value.shown.map escaped

def characterIn (medium : Medium) (value : Value) : Except Fault (List Char) :=
  let limit := if medium = .text then 0x110000 else 0x100
  let problem :=
    if medium = .text then "%c requires int or char"
    else "%c requires an integer in range(256) or a single byte"
  match medium, value, value.text?, value.number? with
  | .bytes, .bytes [byte], _, _ => .ok (ofCodes [byte])
  | .text, _, some s, _ => if s.length = 1 then .ok s.toList else .error (unfit problem)
  | _, _, _, some (.int n) =>
    if 0 ≤ n ∧ n < (limit : Int) then .ok [Char.ofNat n.toNat]
    else .error (.overflow (.characterCode (if medium = .text then "0x110000" else "256")))
  | _, _, _, _ => .error (unfit problem)

def isDecimal (conversion : Char) : Bool := ['d', 'i', 'u'].contains conversion

def isBased (conversion : Char) : Bool := ['o', 'x', 'X'].contains conversion

/-- The whole number that a slot for integers shows. In decimal it also shows doubles, without
their fraction. -/
def wholeIn (conversion : Char) (value : Value) : Except Fault Int :=
  match value.number? with
  | some (.int n) => .ok n
  | some (.float x) =>
    if isDecimal conversion then
      match x with
      | .nan => .error (.value .nanToInteger)
      | .infinite _ => .error (.overflow .infinityToInteger)
      | .finite negative magnitude _ =>
        .ok (Binary64.signedUnits negative (magnitude / Binary64.one))
    else .error (unfit s!"%{conversion} format: an integer is required, not {value.typeLabel}")
  | none =>
    let wanted := if isDecimal conversion then "a real number" else "an integer"
    .error (unfit s!"%{conversion} format: {wanted} is required, not {value.typeLabel}")

def capitalsFor (conversion : Char) (text : List Char) : List Char :=
  if conversion.isUpper then text.map Char.toUpper else text

/-- The digits of a whole number and the mark of their base. Only decimal digits are limited. -/
def wholeText (slot : Text.Slot) (conversion : Char) (least n : Nat) :
    Except Fault (List Char × List Char) :=
  let base := if conversion == 'o' then 8 else if isBased conversion then 16 else 10
  let digits := Nat.toDigits base n
  if base = 10 ∧ digitLimit < digits.length then .error (.value .integerTooLong)
  else
    let digits := List.replicate (least - digits.length) '0' ++ digits
    .ok (if slot.alternate && isBased conversion then ['0', conversion] else [],
      capitalsFor conversion digits)

def fractionIn (medium : Medium) (value : Value) : Except Fault Binary64 :=
  match medium, value.number?.map Number.toDouble with
  | _, some (.ok x) => .ok x
  | .text, some (.error fault) => .error fault
  | .text, none => .error (unfit s!"must be real number, not {value.typeLabel}")
  | .bytes, _ => .error (unfit s!"float argument required, not {value.typeLabel}")

/-- The magnitude of a double with places as a slot wants them, six when it does not say. -/
def fractionText (slot : Text.Slot) (conversion : Char) (precision : Option Nat) (x : Binary64) :
    List Char :=
  let places := precision.getD 6
  capitalsFor conversion <|
    match x with
    | .nan => Binary64.style.nan.toList
    | .infinite _ => Binary64.style.infinity.toList
    | .finite _ magnitude _ =>
      if conversion.toLower = 'f' then Binary64.fixedText slot.alternate places magnitude
      else if conversion.toLower = 'e' then Binary64.scientificText slot.alternate places magnitude
      else Binary64.generalText slot.alternate places magnitude

/-- How a conversion of numbers is called: in bytes one letter stands for two. -/
def numberLetter (medium : Medium) (conversion : Char) : Char :=
  if medium = .bytes ∧ conversion = 'i' then 'd' else conversion

/-- What is wrong with a conversion that there is not. -/
def unsupported (medium : Medium) (conversion : Char) (index : Nat) : Fault :=
  let shown :=
    if medium = .text ∧ ¬(31 ≤ conversion.toNat ∧ conversion.toNat ≤ 126) then '?' else conversion
  let code := String.ofList (Nat.toDigits 16 conversion.toNat)
  .value (.template s!"unsupported format character '{shown}' (0x{code}) at index {index}")

def fillSlot (medium : Medium) (slot : Text.Slot) (fitting : Text.Fitting) (conversion : Char)
    (value : Value) : Except Fault (List Char) :=
  if ['s', 'r', 'a'].contains conversion || (medium == .bytes && conversion == 'b') then
    (shownIn medium conversion value).map fitting.text
  else if conversion == 'c' then (characterIn medium value).map fitting.pad
  else if isDecimal conversion || isBased conversion then do
    let n ← wholeIn (numberLetter medium conversion) value
    let (mark, digits) ← wholeText slot conversion (fitting.precision.getD 0) n.natAbs
    return fitting.number slot (n < 0) mark digits
  else if ['e', 'f', 'g'].contains conversion.toLower then
    (fractionIn medium value).map fun x =>
      fitting.number slot x.isNegative [] (fractionText slot conversion fitting.precision x)
  else .error (unsupported medium conversion slot.index)

def fillNext (medium : Medium) (argument : Value) (slot : Text.Slot) (row : List Value) :
    Except Fault (List Char × List Value) := do
  let row ←
    match slot.name with
    | some name => (named medium argument name).map fun value => [value]
    | none => Except.ok row
  let (width, row) ← takeAmount widthRule slot.width row
  let (precision, row) ← takeAmount precisionRule slot.precision row
  match slot.conversion with
  | none => .error (.value (.template "incomplete format"))
  | some conversion =>
    let (value, row) ← takeNext row
    let fitting : Text.Fitting :=
      { width := (width.getD 0).natAbs
        precision := precision.map Int.toNat
        leftAligned := slot.leftAligned || width.getD 0 < 0 }
    return (← fillSlot medium slot fitting conversion value, row)

/-- Fills parts in turn and returns what is left of the row. -/
def fillParts (medium : Medium) (argument : Value) :
    List Text.TemplatePart → List Value → Except Fault (List Char × List Value)
  | [], row => .ok ([], row)
  | .text s :: rest, row => do
    let (after, row) ← fillParts medium argument rest row
    return (s.toList ++ after, row)
  | .sign :: rest, row => do
    let (after, row) ← fillParts medium argument rest row
    return ('%' :: after, row)
  | .slot slot :: rest, row => do
    let (filling, row) ← fillNext medium argument slot row
    let (after, row) ← fillParts medium argument rest row
    return (filling ++ after, row)
  | .unclosedName :: _, _ =>
    if isSource medium argument then .error (.value (.template "incomplete format key"))
    else .error (unfit "format requires a mapping")

def fill (medium : Medium) (parts : List Text.TemplatePart) (argument : Value) :
    Except Fault (List Char) := do
  let row :=
    match argument with
    | .tuple items => items
    | _ => [argument]
  let (text, left) ← fillParts medium argument parts row
  if left.isEmpty || isSource medium argument then return text
  else
    let noun := if medium = .text then "string" else "bytes"
    .error (unfit s!"not all arguments converted during {noun} formatting")

/-- The remainder of numbers; on text and on bytes the operator fills a template. -/
def remainder (left right : Value) : Except Fault Value :=
  match left.number?, right.number?, left.text?, left with
  | some a, some b, _, _ => a.remainder b
  | _, _, some s, _ =>
    (fill .text (Text.readTemplate s) right).map fun text => .str (String.ofList text)
  | _, _, _, .bytes b =>
    (fill .bytes (Text.readTemplate (String.ofList (ofCodes b))) right).map fun text =>
      .bytes (codes text)
  | _, _, _, _ => .error (.type (.operands "%" left.typeLabel right.typeLabel))

end Value

end Conformance
