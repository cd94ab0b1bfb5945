import Conformance.Binary64.Decimal
import Conformance.Text.Quoted
import Conformance.Value

/-!
# Printed form

How values appear in messages and logs: texts quoted, containers in their brackets, records of a
schema by the names of their fields. `printed` spells a value out. An integer of too many digits is
never written, so `shown`, which is what the program writes, fails on a value that shows one.
-/

namespace Conformance

/-- A pattern's flags in their fixed order. -/
def Pattern.flagNames (p : Pattern) : List String :=
  (if p.flags.ignoreCase then ["re.IGNORECASE"] else [])
    ++ (if p.flags.multiline then ["re.MULTILINE"] else [])
    ++ (if p.flags.dotAll then ["re.DOTALL"] else [])
    ++ (if p.flags.verbose then ["re.VERBOSE"] else [])
    ++ (if p.flags.ascii then ["re.ASCII"] else [])

def PatternSource.printed : PatternSource → String
  | .text s => Text.quoted s
  | .bytes b => Text.quotedBytes b

/-- Only so many characters of a pattern's source are shown. -/
def Pattern.shownLength : Nat := 200

def Pattern.printed (p : Pattern) : String :=
  let source := String.ofList (p.source.printed.toList.take Pattern.shownLength)
  let flags := p.flagNames
  if flags.isEmpty then s!"re.compile({source})"
  else
    let listed := "|".intercalate flags
    s!"re.compile({source}, {listed})"

def EnumValue.printed : EnumValue → String
  | .integer n => toString n
  | .text s => Text.quoted s

def EnumMember.printed (m : EnumMember) : String :=
  s!"<{m.enumeration}.{m.name}: {m.value.printed}>"

def Date.printed (d : Date) : String := s!"datetime.date({d.year}, {d.month}, {d.day})"

def Moment.printed (m : Moment) : String :=
  let fraction :=
    if m.microsecond ≠ 0 then s!", {m.second}, {m.microsecond}"
    else if m.second ≠ 0 then s!", {m.second}"
    else ""
  s!"datetime.datetime({m.date.year}, {m.date.month}, {m.date.day}, {m.hour}, {m.minute}"
    ++ fraction ++ ")"

namespace Value

def commas (parts : List String) : String := ", ".intercalate parts

def fieldsText (name : String) (fields : List (String × String)) : String :=
  name ++ "(" ++ commas (fields.map fun f => f.1 ++ "=" ++ f.2) ++ ")"

mutual

def printed (value : Value) : String :=
  match value with
  | .null => "None"
  | .bool true => "True"
  | .bool false => "False"
  | .int n => toString n
  | .float x => x.text
  | .str s => Text.quoted s
  | .bytes b => Text.quotedBytes b
  | .list xs | .listSubtype xs => "[" ++ commas (printedItems xs) ++ "]"
  | .tuple [x] => "(" ++ printed x ++ ",)"
  | .tuple xs => "(" ++ commas (printedItems xs) ++ ")"
  | .dict es => "\x7b" ++ commas (printedEntries es) ++ "\x7d"
  | .orderedDict [] => "OrderedDict()"
  | .orderedDict es => "OrderedDict([" ++ commas (printedPairs es) ++ "])"
  | .set [] => "set()"
  | .set xs => "\x7b" ++ commas (printedItems xs) ++ "\x7d"
  | .missing => "MISSING"
  | .member m => m.printed
  | .pattern p => p.printed
  | .predicate _ name _ _ => s!"<fn {name}>"
  | .date d => d.printed
  | .moment m => m.printed
  | .complexSchema a b c d e f g h =>
    fieldsText "ComplexSchema" [("scalar", printed a), ("array", printed b),
      ("object", printed c), ("enum", printed d), ("string", printed e), ("number", printed f),
      ("optional", printed g), ("nullable", printed h)]
  | .arraySchema a b c d e =>
    fieldsText "ArraySchema" [("item_type", printed a), ("length", printed b),
      ("min_length", printed c), ("max_length", printed d), ("matcher", printed e)]
  | .objectSchema a b c =>
    fieldsText "ObjectSchema" [("members", printed a), ("allow_extra_members", printed b),
      ("matcher", printed c)]
  | .stringSchema a => fieldsText "StringSchema" [("matcher", printed a)]
  | .numberSchema a b c d e =>
    fieldsText "NumberSchema" [("value", printed a), ("min", printed b), ("max", printed c),
      ("is_integer", printed d), ("epsilon", printed e)]
  | .attributes es => "namespace(" ++ commas (printedAttributes es) ++ ")"
  | .foreign name => s!"<{name}>"
  | .recursive _ _ | .link _ => "[...]"
termination_by structural value

def printedItems (items : List Value) : List String :=
  match items with
  | [] => []
  | x :: xs => printed x :: printedItems xs
termination_by structural items

def printedEntries (entries : List (Value × Value)) : List String :=
  match entries with
  | [] => []
  | (key, value) :: rest => (printed key ++ ": " ++ printed value) :: printedEntries rest
termination_by structural entries

def printedPairs (entries : List (Value × Value)) : List String :=
  match entries with
  | [] => []
  | (key, value) :: rest =>
    ("(" ++ printed key ++ ", " ++ printed value ++ ")") :: printedPairs rest
termination_by structural entries

def printedAttributes (named : List (String × Value)) : List String :=
  match named with
  | [] => []
  | (name, value) :: rest => (name ++ "=" ++ printed value) :: printedAttributes rest
termination_by structural named

end

/-- The text of a value inside a sentence: texts appear as they are. -/
def displayed (value : Value) : String :=
  match value with
  | .str s => s
  | .member m =>
    match m.base, m.value with
    | .integer, .integer n => toString n
    | _, _ => m.enumeration ++ "." ++ m.name
  | .date d => d.text
  | _ => value.printed

/-! Integers that are too long to be written -/

def isLongInteger (n : Int) : Bool := digitLimit < (Nat.toDigits 10 n.natAbs).length

def isLongEnumValue : EnumValue → Bool
  | .integer n => isLongInteger n
  | .text _ => false

mutual

/-- Is an integer that is too long among what a value shows? -/
def showsLong (value : Value) : Bool :=
  match value with
  | .int n => isLongInteger n
  | .member m => isLongEnumValue m.value
  | .list xs | .listSubtype xs | .tuple xs | .set xs => showsLongItem xs
  | .dict es | .orderedDict es => showsLongEntry es
  | .complexSchema a b c d e f g h =>
    showsLong a || showsLong b || showsLong c || showsLong d || showsLong e || showsLong f
      || showsLong g || showsLong h
  | .arraySchema a b c d e =>
    showsLong a || showsLong b || showsLong c || showsLong d || showsLong e
  | .objectSchema a b c => showsLong a || showsLong b || showsLong c
  | .stringSchema a => showsLong a
  | .numberSchema a b c d e =>
    showsLong a || showsLong b || showsLong c || showsLong d || showsLong e
  | .attributes es => showsLongAttribute es
  | _ => false
termination_by structural value

def showsLongItem (items : List Value) : Bool :=
  match items with
  | [] => false
  | x :: xs => showsLong x || showsLongItem xs
termination_by structural items

def showsLongEntry (entries : List (Value × Value)) : Bool :=
  match entries with
  | [] => false
  | (key, value) :: rest => showsLong key || showsLong value || showsLongEntry rest
termination_by structural entries

def showsLongAttribute (named : List (String × Value)) : Bool :=
  match named with
  | [] => false
  | (_, value) :: rest => showsLong value || showsLongAttribute rest
termination_by structural named

end

/-- The printed form as it is written. -/
def shown (value : Value) : Except Fault String :=
  if value.showsLong then .error (.value .integerTooLong) else .ok value.printed

/-- Of a plain member a sentence has the name only. -/
def displaysLong (value : Value) : Bool :=
  match value with
  | .member m => m.base == .integer && isLongEnumValue m.value
  | _ => value.showsLong

/-- The text of a value inside a sentence as it is written. -/
def told (value : Value) : Except Fault String :=
  if value.displaysLong then .error (.value .integerTooLong) else .ok value.displayed

theorem shown_of_showsLong {value : Value} (h : value.showsLong = true) :
    value.shown = .error (.value .integerTooLong) := if_pos h

theorem shown_of_not_showsLong {value : Value} (h : value.showsLong = false) :
    value.shown = .ok value.printed := by
  rw [shown, h, if_neg Bool.false_ne_true]

theorem showsLong_of_shown {value : Value} {text : String} (h : value.shown = .ok text) :
    value.showsLong = false := by
  cases hlong : value.showsLong with
  | true => cases (shown_of_showsLong hlong).symm.trans h
  | false => rfl

/-- A text shows no integer. -/
theorem showsLong_of_text? {value : Value} {text : String} (h : value.text? = some text) :
    value.showsLong = false := by
  unfold text? at h
  split at h
  · rfl
  · split at h
    · next hvalue => rw [showsLong, hvalue, isLongEnumValue]
    · cases h
  · cases h

end Value

end Conformance
