import Conformance.Text.Hex
import Conformance.Yaml.Cursor

/-!
# Quoted scalars

Between single quotes only a doubled quote is special; between double quotes a backslash starts an
escape. Line ends are folded: one becomes a space, of several the first is dropped. Read text is
collected in reverse.
-/

namespace Conformance.Yaml

inductive Quote
  | single
  | double
  deriving DecidableEq

def Quote.mark : Quote → Char
  | .single => '\''
  | .double => '"'

def escaped? : Char → Option Char
  | '0' => some '\x00'
  | 'a' => some '\x07'
  | 'b' => some '\x08'
  | 't' | '\t' => some '\t'
  | 'n' => some '\n'
  | 'v' => some '\x0b'
  | 'f' => some '\x0c'
  | 'r' => some '\r'
  | 'e' => some '\x1b'
  | ' ' => some ' '
  | '"' => some '"'
  | '\\' => some '\\'
  | '/' => some '/'
  | 'N' => some '\x85'
  | '_' => some '\xa0'
  | 'L' => some '\u2028'
  | 'P' => some '\u2029'
  | _ => none

def codeWidth? : Char → Option Nat
  | 'x' => some 2
  | 'u' => some 4
  | 'U' => some 8
  | _ => none

/-- The character of a code. Codes beyond the last character are refused, in one of two ways
according to their size. -/
def charOfCode (code : Nat) : Reading Char :=
  if code < 0x110000 then .ok (Char.ofNat code)
  else if code < Nat.pow 2 31 then .error (.fault (.value .codePoint))
  else .error (.fault (.overflow .integerToCode))

/-- The line ends and blanks between two lines of a scalar, which must not separate documents. -/
def quotedBreaks : Nat → Cursor → List Char → Reading (List Char × Cursor)
  | 0, _, _ => malformed
  | fuel + 1, cursor, breaks =>
    if cursor.atSeparator then malformed
    else
      let cursor := cursor.skipWhile isSpace
      match cursor.takeBreak? with
      | some (c, cursor) => quotedBreaks fuel cursor (c :: breaks)
      | none => .ok (breaks, cursor)

def quotedEscape (cursor : Cursor) (text : List Char) : Reading (List Char × Cursor) :=
  match cursor.peek? with
  | none => malformed
  | some letter =>
    match escaped? letter, codeWidth? letter with
    | some c, _ => .ok (c :: text, cursor.advance)
    | none, some width => do
      let cursor := cursor.advance
      let digits := cursor.rest.take width
      if digits.length < width then malformed
      else
        match Text.hexNumber? digits with
        | none => malformed
        | some code => return ((← charOfCode code) :: text, cursor.skip width)
    | none, none =>
      match cursor.takeBreak? with
      | some (_, cursor) => do
        let (breaks, cursor) ← quotedBreaks (cursor.rest.length + 1) cursor []
        return (breaks ++ text, cursor)
      | none => malformed

/-- Content up to a space, the end of a line or the closing quote. -/
def quotedContent (quote : Quote) : Nat → Cursor → List Char → Reading (List Char × Cursor)
  | 0, cursor, text => .ok (text, cursor)
  | fuel + 1, cursor, text =>
    match cursor.peek?, quote with
    | none, _ => .ok (text, cursor)
    | some '\'', .single =>
      if cursor.peekAt? 1 == some '\'' then quotedContent quote fuel (cursor.skip 2) ('\'' :: text)
      else .ok (text, cursor)
    | some '"', .double => .ok (text, cursor)
    | some '\\', .double => do
      let (text, cursor) ← quotedEscape cursor.advance text
      quotedContent quote fuel cursor text
    | some c, _ =>
      if isSpace c || isBreak c then .ok (text, cursor)
      else quotedContent quote fuel cursor.advance (c :: text)

def quotedSpaces (cursor : Cursor) (text : List Char) : Reading (List Char × Cursor) :=
  let (spaces, cursor) := cursor.takeWhile isSpace
  match cursor.takeBreak? with
  | some (first, cursor) => do
    let (breaks, cursor) ← quotedBreaks (cursor.rest.length + 1) cursor []
    if first != '\n' then return (breaks ++ first :: text, cursor)
    else if breaks.isEmpty then return (' ' :: text, cursor)
    else return (breaks ++ text, cursor)
  | none => if cursor.rest.isEmpty then malformed else .ok (spaces.reverse ++ text, cursor)

def quotedStretches (quote : Quote) : Nat → Cursor → List Char → Reading (List Char × Cursor)
  | 0, _, _ => malformed
  | fuel + 1, cursor, text => do
    let (text, cursor) ← quotedContent quote (cursor.rest.length + 1) cursor text
    if cursor.peek? == some quote.mark then return (text, cursor.advance)
    else
      let (text, cursor) ← quotedSpaces cursor text
      quotedStretches quote fuel cursor text

def quotedScalar (quote : Quote) (cursor : Cursor) : Reading (String × Cursor) := do
  let (text, cursor) ← quotedStretches quote (cursor.rest.length + 1) cursor.advance []
  return (String.ofList text.reverse, cursor)

end Conformance.Yaml
