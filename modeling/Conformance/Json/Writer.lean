import Conformance.Binary64.Decimal
import Conformance.Text.Hex
import Conformance.Value

/-!
# Writing documents in JSON

The text is ASCII. Items and entries stand on lines of their own, indented by their depth; empty
containers are closed at once.
-/

namespace Conformance.Json

def indentWidth : Nat := 2

def newLine (level : Nat) : List Char := '\n' :: List.replicate (indentWidth * level) ' '

def escapeLetter? : Char → Option Char
  | '"' => some '"'
  | '\\' => some '\\'
  | '\x08' => some 'b'
  | '\x0c' => some 'f'
  | '\n' => some 'n'
  | '\r' => some 'r'
  | '\t' => some 't'
  | _ => none

def unitEscape (unit : Nat) : List Char := '\\' :: 'u' :: Text.hexPadded 4 unit

/-- The escapes of a code point: one unit, or two halves beyond the first plane. -/
def codeEscape (code : Nat) : List Char :=
  if code < 0x10000 then unitEscape code
  else
    unitEscape (0xd800 + (code - 0x10000) / 0x400) ++ unitEscape (0xdc00 + (code - 0x10000) % 0x400)

def writeChar (c : Char) : List Char :=
  match escapeLetter? c with
  | some letter => ['\\', letter]
  | none => if ' ' ≤ c ∧ c ≤ '~' then [c] else codeEscape c.toNat

def writeText (text : List Char) : List Char := '"' :: text.flatMap writeChar ++ ['"']

def writeDouble : Binary64 → List Char
  | .nan => ['N', 'a', 'N']
  | .infinite false => ['I', 'n', 'f', 'i', 'n', 'i', 't', 'y']
  | .infinite true => ['-', 'I', 'n', 'f', 'i', 'n', 'i', 't', 'y']
  | x => x.text.toList

def writeInteger (n : Int) : List Char :=
  if n < 0 then '-' :: Nat.toDigits 10 n.natAbs else Nat.toDigits 10 n.natAbs

/-- The text of a value without items, absent when the value is a container or has none. -/
def writeAtom? (value : Value) : Option (List Char) :=
  match value.text?, value with
  | some s, _ => some (writeText s.toList)
  | none, .null => some ['n', 'u', 'l', 'l']
  | none, .bool true => some ['t', 'r', 'u', 'e']
  | none, .bool false => some ['f', 'a', 'l', 's', 'e']
  | none, value =>
    value.number?.map fun
      | .int n => writeInteger n
      | .float x => writeDouble x

/-- Keys are texts; atoms of other types become texts by their written form. -/
def writeKey (key : Value) : Except Fault (List Char) :=
  match key.text?, writeAtom? key with
  | some _, some text => .ok text
  | none, some text => .ok (writeText text)
  | _, none => .error (.type (.keyNotSerializable key.typeName))

def enclose (opening closing : Char) (level : Nat) (parts : List (List Char)) : List Char :=
  if parts.isEmpty then [opening, closing]
  else
    opening :: newLine (level + 1) ++ List.intercalate (',' :: newLine (level + 1)) parts
      ++ newLine level ++ [closing]

mutual

def write (level : Nat) (value : Value) : Except Fault (List Char) :=
  match value with
  | .list items | .listSubtype items | .tuple items =>
    (writeItems (level + 1) items).map (enclose '[' ']' level)
  | .dict entries | .orderedDict entries =>
    (writeEntries (level + 1) entries).map (enclose '{' '}' level)
  | value =>
    match writeAtom? value with
    | some text => .ok text
    | none => .error (.type (.notSerializable value.typeName))
termination_by structural value

def writeItems (level : Nat) (items : List Value) : Except Fault (List (List Char)) :=
  match items with
  | [] => .ok []
  | item :: rest => do
    let text ← write level item
    return text :: (← writeItems level rest)
termination_by structural items

def writeEntries (level : Nat) (entries : List (Value × Value)) :
    Except Fault (List (List Char)) :=
  match entries with
  | [] => .ok []
  | (key, value) :: rest => do
    let name ← writeKey key
    let text ← write level value
    return (name ++ ':' :: ' ' :: text) :: (← writeEntries level rest)
termination_by structural entries

end

def writeDocument (value : Value) : Except Fault String := (write 0 value).map String.ofList

end Conformance.Json
