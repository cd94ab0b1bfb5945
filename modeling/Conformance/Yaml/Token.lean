import Conformance.Numeral
import Conformance.Text.Utf8
import Conformance.Yaml.Cursor

/-!
# Tokens

The marks, names and scalars of a document, with the marks that indentation stands for. Names,
tags and directives are read here.
-/

namespace Conformance.Yaml

inductive Directive
  | version (major : Nat)
  | handle (name expansion : String)
  | other
  deriving DecidableEq

/-- A token. `stopped` stands where the text cannot be read further. -/
inductive Token
  | directive (directive : Directive)
  | documentStart
  | documentEnd
  | streamEnd
  | blockSequenceStart
  | blockMappingStart
  | blockEnd
  | flowSequenceStart
  | flowSequenceEnd
  | flowMappingStart
  | flowMappingEnd
  | blockEntry
  | flowEntry
  | key
  | value
  | alias (name : String)
  | anchor (name : String)
  | tag (handle : Option String) (suffix : String)
  | scalar (text : String) (plain : Bool)
  | stopped (stop : Stop)
  deriving DecidableEq

namespace Token

def readName (cursor : Cursor) : Reading (String × Cursor) :=
  let (name, cursor) := cursor.takeWhile isNameChar
  if name.isEmpty then malformed else .ok (String.ofList name, cursor)

/-- The marks that may stand directly behind the name of an anchor. -/
def followsAnchor (c : Char) : Bool :=
  isSpace c || isBreak c || ['?', ':', ',', ']', '}', '%', '@', '\x60'].contains c

def readAnchor (cursor : Cursor) : Reading (String × Cursor) := do
  let (name, cursor) ← readName cursor
  if cursor.endsOr followsAnchor 0 then return (name, cursor) else malformed

def isUriChar (c : Char) : Bool :=
  isNameChar c || [';', '/', '?', ':', '@', '&', '=', '+', '$', ',', '.', '!', '~', '*', '\'', '(',
    ')', '[', ']'].contains c

/-- Bytes written with percent signs, as far as they follow each other. -/
def readPercents : Nat → Cursor → List UInt8 → Reading (List UInt8 × Cursor)
  | 0, cursor, bytes => .ok (bytes.reverse, cursor)
  | fuel + 1, cursor, bytes =>
    if cursor.peek? == some '%' then
      let digits := (cursor.rest.drop 1).take 2
      match Text.hexNumber? digits with
      | some n =>
        if digits.length = 2 then readPercents fuel (cursor.skip 3) (n.toUInt8 :: bytes)
        else malformed
      | none => malformed
    else .ok (bytes.reverse, cursor)

/-- The characters of a tag, with escaped bytes decoded. -/
def readUriChars : Nat → Cursor → List Char → Reading (List Char × Cursor)
  | 0, cursor, text => .ok (text, cursor)
  | fuel + 1, cursor, text =>
    match cursor.peek? with
    | some '%' => do
      let (bytes, cursor) ← readPercents (cursor.rest.length + 1) cursor []
      match Text.decodeUtf8 bytes with
      | .ok decoded => readUriChars fuel cursor (decoded.reverse ++ text)
      | .error _ => malformed
    | some c =>
      if isUriChar c then readUriChars fuel cursor.advance (c :: text) else .ok (text, cursor)
    | none => .ok (text, cursor)

def readUri (cursor : Cursor) : Reading (String × Cursor) := do
  let (text, after) ← readUriChars (cursor.rest.length + 1) cursor []
  if after.index = cursor.index then malformed else return (String.ofList text.reverse, after)

/-- A handle: a mark alone, or a name between two. A space ends the lone mark. -/
def readHandle (cursor : Cursor) : Reading (String × Cursor) :=
  if cursor.peek? != some '!' then malformed
  else
    let (name, after) := cursor.advance.takeWhile isNameChar
    if after.peek? == some '!' then .ok (String.ofList ('!' :: name ++ ['!']), after.advance)
    else if name.isEmpty && after.peek? == some ' ' then .ok ("!", after)
    else malformed

/-- Does the tag at its mark name a handle? A second mark before the next gap says so. -/
def namesHandle (cursor : Cursor) : Bool :=
  ((cursor.rest.drop 1).takeWhile fun c => !(c == ' ' || isBreak c)).contains '!'

/-- A tag at its mark: in angle brackets as it is, alone, or behind a handle. -/
def readTag (cursor : Cursor) : Reading (Token × Cursor) := do
  let (token, cursor) ←
    match cursor.peekAt? 1 with
    | some '<' => do
      let (text, cursor) ← readUri (cursor.skip 2)
      if cursor.peek? == some '>' then pure (Token.tag none text, cursor.advance) else malformed
    | _ =>
      if cursor.blankAt 1 then pure (Token.tag none "!", cursor.advance)
      else do
        let (handle, cursor) ←
          if namesHandle cursor then readHandle cursor else pure ("!", cursor.advance)
        let (suffix, cursor) ← readUri cursor
        pure (Token.tag (some handle) suffix, cursor)
  if cursor.atGap then return (token, cursor) else malformed

def readVersionNumber (cursor : Cursor) : Reading (Nat × Cursor) :=
  let (digits, after) := cursor.takeWhile (·.isDigit)
  if digits.isEmpty then malformed
  else
    match Numeral.readInteger 10 digits with
    | .ok n => .ok (n.toNat, after)
    | .error fault => .error (.fault fault)

def readVersion (cursor : Cursor) : Reading (Directive × Cursor) := do
  let (major, cursor) ← readVersionNumber (cursor.skipWhile (· == ' '))
  if cursor.peek? != some '.' then malformed
  let (_, cursor) ← readVersionNumber cursor.advance
  if cursor.atGap then return (.version major, cursor) else malformed

def readHandleDirective (cursor : Cursor) : Reading (Directive × Cursor) := do
  let (handle, cursor) ← readHandle (cursor.skipWhile (· == ' '))
  if cursor.peek? != some ' ' then malformed
  let (expansion, cursor) ← readUri (cursor.skipWhile (· == ' '))
  if cursor.atGap then return (.handle handle expansion, cursor) else malformed

/-- A directive behind its percent sign, with the end of its line. -/
def readDirective (cursor : Cursor) : Reading (Token × Cursor) := do
  let (name, cursor) ← readName cursor
  if !cursor.atGap then malformed
  let (content, cursor) ←
    match name with
    | "YAML" => readVersion cursor
    | "TAG" => readHandleDirective cursor
    | _ => pure (.other, cursor.skipWhile (!isBreak ·))
  let cursor ← cursor.finishLine
  return (.directive content, cursor)

end Token

end Conformance.Yaml
