import Conformance.Numeral
import Conformance.Text.Hex
import Conformance.Value.Equality

/-!
# Reading documents in JSON

Each reader takes the rest of the text and returns what it read with what is left. A problem is
placed by the number of characters from it to the end. Beside the standard, the names of the
special doubles are values, and a repeated key keeps its first place and its last value.

Two limits: texts here are made of characters, so an escape of half a pair alone reads as the
replacement character; and values may be nested to any depth.
-/

namespace Conformance.Json

inductive Problem
  | value
  | property
  | colon
  | comma
  | control
  | unterminated
  | escape
  | codeEscape
  | extra
  | byteOrderMark
  deriving DecidableEq

def Problem.message : Problem → String
  | .value => "Expecting value"
  | .property => "Expecting property name enclosed in double quotes"
  | .colon => "Expecting ':' delimiter"
  | .comma => "Expecting ',' delimiter"
  | .control => "Invalid control character at"
  | .unterminated => "Unterminated string starting at"
  | .escape => "Invalid \\escape"
  | .codeEscape => "Invalid \\uXXXX escape"
  | .extra => "Extra data"
  | .byteOrderMark => "Unexpected UTF-8 BOM (decode using utf-8-sig)"

/-- What stops a reader: a problem `remaining` characters before the end, or an integer that is
too long. -/
inductive Stop
  | problem (problem : Problem) (remaining : Nat)
  | tooManyDigits (count : Nat)
  deriving DecidableEq

abbrev Reading := Except Stop

def stop (problem : Problem) (text : List Char) : Reading α :=
  .error (.problem problem text.length)

def isSpace (c : Char) : Bool := c == ' ' || c == '\t' || c == '\n' || c == '\r'

def skipSpace (text : List Char) : List Char := text.dropWhile isSpace

def escaped? : Char → Option Char
  | '"' => some '"'
  | '\\' => some '\\'
  | '/' => some '/'
  | 'b' => some '\x08'
  | 'f' => some '\x0c'
  | 'n' => some '\n'
  | 'r' => some '\r'
  | 't' => some '\t'
  | _ => none

/-- The four digits behind the `u` of an escape; they may not end the text. -/
def codeUnit? : List Char → Option (Nat × List Char)
  | a :: b :: c :: d :: e :: rest => (Text.hexNumber? [a, b, c, d]).map (·, e :: rest)
  | _ => none

def isHighHalf (unit : Nat) : Bool := 0xd800 ≤ unit && unit < 0xdc00

def isLowHalf (unit : Nat) : Bool := 0xdc00 ≤ unit && unit < 0xe000

def joinHalves (high low : Nat) : Nat := 0x10000 + (high - 0xd800) * 0x400 + (low - 0xdc00)

/-- A character by its code; half of a pair stands for the replacement character. -/
def charOfUnit (unit : Nat) : Char :=
  if isHighHalf unit || isLowHalf unit then '\ufffd' else Char.ofNat unit

/-- What the code escape with the given unit stands for: two halves of a pair are joined. -/
def joinUnit (unit : Nat) (rest : List Char) : Char × List Char :=
  match isHighHalf unit, rest with
  | true, '\\' :: 'u' :: more =>
    match codeUnit? more with
    | some (low, after) =>
      if isLowHalf low then (Char.ofNat (joinHalves unit low), after) else (charOfUnit unit, rest)
    | none => (charOfUnit unit, rest)
  | _, _ => (charOfUnit unit, rest)

/-- The rest of a string behind its opening quote. -/
def readText : Nat → List Char → Reading (List Char × List Char)
  | 0, text => stop .unterminated text
  | _, [] => stop .unterminated []
  | _ + 1, '"' :: rest => .ok ([], rest)
  | _ + 1, ['\\'] => stop .unterminated []
  | fuel + 1, '\\' :: 'u' :: rest =>
    match codeUnit? rest with
    | none => stop .codeEscape ('u' :: rest)
    | some (unit, rest) =>
      let (c, rest) := joinUnit unit rest
      (readText fuel rest).map fun (read, rest) => (c :: read, rest)
  | fuel + 1, '\\' :: letter :: rest =>
    match escaped? letter with
    | none => stop .escape ('\\' :: letter :: rest)
    | some c => (readText fuel rest).map fun (read, rest) => (c :: read, rest)
  | fuel + 1, c :: rest =>
    if c.toNat < 0x20 then stop .control (c :: rest)
    else (readText fuel rest).map fun (read, rest) => (c :: read, rest)

/-- The string behind an opening quote. One without an end is placed where it starts. -/
def readString (fuel : Nat) (text : List Char) : Reading (String × List Char) :=
  match readText fuel text with
  | .ok (read, rest) => .ok (String.ofList read, rest)
  | .error (.problem .unterminated _) => stop .unterminated ('"' :: text)
  | .error other => .error other

/-- The whole part of a number: a zero, or digits that do not start with one. -/
def takeWhole : List Char → List Char × List Char
  | '0' :: rest => (['0'], rest)
  | text => Numeral.takeDecimals text

def takeFraction (text : List Char) : List Char × List Char :=
  match text with
  | '.' :: rest =>
    let (digits, after) := Numeral.takeDecimals rest
    if digits.isEmpty then ([], text) else (digits, after)
  | _ => ([], text)

/-- The exponent behind an `e`, absent when no digit follows. -/
def takeExponent (text : List Char) : Option Int × List Char :=
  match text with
  | c :: rest =>
    if c = 'e' ∨ c = 'E' then
      let (negative, rest) := Numeral.takeSign rest
      let (digits, after) := Numeral.takeDecimals rest
      if digits.isEmpty then (none, text)
      else ((Numeral.ofDigits? 10 digits).map (Numeral.signed negative), after)
    else (none, text)
  | [] => (none, text)

def readNumber (text : List Char) : Reading (Value × List Char) :=
  let (negative, body) :=
    match text with
    | '-' :: rest => (true, rest)
    | _ => (false, text)
  let (whole, rest) := takeWhole body
  if whole.isEmpty then stop .value text
  else
    let (fraction, rest) := takeFraction rest
    let (exponent?, rest) := takeExponent rest
    let digits := (Numeral.ofDigits? 10 (whole ++ fraction)).getD 0
    if fraction.isEmpty && exponent?.isNone then
      if digitLimit < whole.length then .error (.tooManyDigits whole.length)
      else .ok (.int (Numeral.signed negative digits), rest)
    else
      .ok (.float (.ofDecimal negative digits (exponent?.getD 0 - fraction.length)), rest)

def names : List (List Char × Value) :=
  [(['n', 'u', 'l', 'l'], .null), (['t', 'r', 'u', 'e'], .bool true),
    (['f', 'a', 'l', 's', 'e'], .bool false), (['N', 'a', 'N'], .float .nan),
    (['I', 'n', 'f', 'i', 'n', 'i', 't', 'y'], .float (.infinite false)),
    (['-', 'I', 'n', 'f', 'i', 'n', 'i', 't', 'y'], .float (.infinite true))]

/-- What follows an expected start. -/
def dropStart? : List Char → List Char → Option (List Char)
  | [], text => some text
  | _ :: _, [] => none
  | c :: expected, d :: text => if c = d then dropStart? expected text else none

/-- A name or a number. -/
def readPlain (text : List Char) : Reading (Value × List Char) :=
  match names.findSome? fun (name, value) => (dropStart? name text).map (value, ·) with
  | some step => .ok step
  | none => readNumber text

mutual

def readValue : Nat → List Char → Reading (Value × List Char)
  | 0, text => stop .value text
  | _, [] => stop .value []
  | fuel + 1, '"' :: rest => (readString fuel rest).map fun (s, rest) => (.str s, rest)
  | fuel + 1, '[' :: rest =>
    match skipSpace rest with
    | ']' :: rest => .ok (.list [], rest)
    | rest => (readItems fuel rest).map fun (items, rest) => (.list items, rest)
  | fuel + 1, '{' :: rest =>
    match skipSpace rest with
    | '}' :: rest => .ok (.dict [], rest)
    | rest =>
      (readEntries fuel rest).map fun (entries, rest) => (.dict (Value.ofPairs entries), rest)
  | _ + 1, text => readPlain text

def readItems : Nat → List Char → Reading (List Value × List Char)
  | 0, text => stop .value text
  | fuel + 1, text => do
    let (value, rest) ← readValue fuel text
    match skipSpace rest with
    | ']' :: rest => return ([value], rest)
    | ',' :: rest =>
      let (items, rest) ← readItems fuel (skipSpace rest)
      return (value :: items, rest)
    | rest => stop .comma rest

def readEntries : Nat → List Char → Reading (Value.Entries × List Char)
  | 0, text => stop .property text
  | fuel + 1, text =>
    match text with
    | '"' :: rest => do
      let (key, rest) ← readString fuel rest
      match skipSpace rest with
      | ':' :: rest =>
        let (value, rest) ← readValue fuel (skipSpace rest)
        match skipSpace rest with
        | '}' :: rest => return ([(.str key, value)], rest)
        | ',' :: rest =>
          let (entries, rest) ← readEntries fuel (skipSpace rest)
          return ((.str key, value) :: entries, rest)
        | rest => stop .comma rest
      | rest => stop .colon rest
    | rest => stop .property rest

end

/-- Twice the length bounds the nesting of calls: each second call has consumed a character, and
inside a string each has. -/
def readDocument (text : List Char) : Reading Value := do
  match text with
  | '\ufeff' :: _ => stop .byteOrderMark text
  | _ =>
    let (value, rest) ← readValue (2 * text.length + 2) (skipSpace text)
    match skipSpace rest with
    | [] => return value
    | rest => stop .extra rest

/-- The line and the column of a place, both counted from one. -/
def position (text : List Char) (offset : Nat) : Nat × Nat :=
  let before := text.take offset
  (before.count '\n' + 1, (before.reverse.takeWhile (· != '\n')).length + 1)

def Problem.locate (problem : Problem) (text : List Char) (remaining : Nat) : String :=
  let offset := text.length - remaining
  let (line, column) := position text offset
  s!"{problem.message}: line {line} column {column} (char {offset})"

def Stop.refusal (text : List Char) : Stop → Refusal
  | .problem cause remaining => .malformed (cause.locate text remaining)
  | .tooManyDigits count => .brokenOff (.value (.tooManyDigits count))

def value (text : List Char) : Except Refusal Value :=
  (readDocument text).mapError (Stop.refusal text)

/-- The value of a document; faults name where the text comes from. -/
def read (source : String) (text : List Char) : Except Fault Value :=
  (value text).mapError (Refusal.toFault (.invalidJson source))

end Conformance.Json
