import Conformance.Fault

/-!
# Places in a text of YAML

A cursor is the rest of the text with its line and column. Lines end as the format says, also with
the separators of lines and paragraphs; a byte order mark takes no column.
-/

namespace Conformance.Yaml

/-- What ends reading: text that is not YAML, or a fault with a wording of its own. -/
inductive Stop
  | malformed
  | fault (fault : Fault)
  deriving DecidableEq

abbrev Reading := Except Stop

def malformed : Reading α := .error .malformed

def isBreak (c : Char) : Bool :=
  c == '\n' || c == '\r' || c == '\x85' || c == '\u2028' || c == '\u2029'

def isSpace (c : Char) : Bool := c == ' ' || c == '\t'

/-- What may stand in a document: no control characters but the tab and the ends of lines. -/
def isPrintable (c : Char) : Bool :=
  c == '\t' || c == '\n' || c == '\r' || (' ' ≤ c && c ≤ '~') || c == '\x85'
    || ('\xa0' ≤ c && c ≤ '\ufffd') || 0x10000 ≤ c.toNat

def isNameChar (c : Char) : Bool := c.isAlphanum || c == '-' || c == '_'

structure Cursor where
  rest : List Char
  index : Nat
  line : Nat
  column : Nat

namespace Cursor

def start (text : List Char) : Cursor := ⟨text, 0, 0, 0⟩

def peek? (cursor : Cursor) : Option Char := cursor.rest.head?

def peekAt? (cursor : Cursor) (ahead : Nat) : Option Char := cursor.rest[ahead]?

/-- Does a character end its line? A carriage return leaves that to the line feed behind it. -/
def endsLine (c : Char) (rest : List Char) : Bool :=
  c == '\n' || c == '\x85' || c == '\u2028' || c == '\u2029' ||
    (c == '\r' && rest.head? != some '\n')

def advance (cursor : Cursor) : Cursor :=
  match cursor.rest with
  | [] => cursor
  | c :: rest =>
    if endsLine c rest then ⟨rest, cursor.index + 1, cursor.line + 1, 0⟩
    else
      ⟨rest, cursor.index + 1, cursor.line,
        if c == '\ufeff' then cursor.column else cursor.column + 1⟩

def skip : Nat → Cursor → Cursor
  | 0, cursor => cursor
  | count + 1, cursor => skip count cursor.advance

/-- The longest stretch of characters of a class, and the place after it. -/
def takeWhile (class? : Char → Bool) (cursor : Cursor) : List Char × Cursor :=
  let taken := cursor.rest.takeWhile class?
  (taken, cursor.skip taken.length)

def skipWhile (class? : Char → Bool) (cursor : Cursor) : Cursor := (cursor.takeWhile class?).2

/-- Does the next character, if there is one, belong to a class? The end of the text does. -/
def endsOr (cursor : Cursor) (class? : Char → Bool) (ahead : Nat) : Bool :=
  match cursor.peekAt? ahead with
  | some c => class? c
  | none => true

/-- Is the character at a distance a space, a tab, the end of a line or of the text? -/
def blankAt (cursor : Cursor) (ahead : Nat) : Bool :=
  cursor.endsOr (fun c => isSpace c || isBreak c) ahead

/-- Is the next character a space, the end of the line or of the text? -/
def atGap (cursor : Cursor) : Bool := cursor.endsOr (fun c => c == ' ' || isBreak c) 0

/-- Takes the end of a line. It counts as a line feed, a separator as itself. -/
def takeBreak? (cursor : Cursor) : Option (Char × Cursor) :=
  match cursor.rest with
  | '\r' :: '\n' :: _ => some ('\n', cursor.skip 2)
  | c :: _ =>
    if isBreak c then
      some (if c == '\u2028' || c == '\u2029' then c else '\n', cursor.advance)
    else none
  | [] => none

/-- Do three equal marks stand here, with a gap behind them? -/
def atMarks (cursor : Cursor) (mark : Char) : Bool :=
  match cursor.rest with
  | a :: b :: c :: _ => a == mark && b == mark && c == mark && cursor.blankAt 3
  | _ => false

/-- The marks that separate documents. -/
def atSeparator (cursor : Cursor) : Bool := cursor.atMarks '-' || cursor.atMarks '.'

/-- What may follow on a line after its content: spaces and a comment. Takes the line's end. -/
def finishLine (cursor : Cursor) : Reading Cursor :=
  let cursor := cursor.skipWhile (· == ' ')
  let cursor := if cursor.peek? == some '#' then cursor.skipWhile (!isBreak ·) else cursor
  match cursor.takeBreak? with
  | some (_, cursor) => .ok cursor
  | none => if cursor.rest.isEmpty then .ok cursor else malformed

end Cursor

end Conformance.Yaml
