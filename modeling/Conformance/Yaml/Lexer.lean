import Conformance.Yaml.Scalar.Block
import Conformance.Yaml.Scalar.Plain
import Conformance.Yaml.Scalar.Quoted
import Conformance.Yaml.Token

/-!
# From text to tokens

Indentation opens and closes blocks. A key without a mark of its own is known only by the colon
behind it, so the place where one may have started is kept until the colon comes or the line ends;
then the marks are put in where it started.
-/

namespace Conformance.Yaml

/-- A place where a key may have started: its place among the tokens and in the text. A required
key must turn out to be one. -/
structure KeyStart where
  number : Nat
  required : Bool
  index : Nat
  line : Nat
  column : Nat

/-- The state of reading: the nesting of brackets, the columns of open blocks, where keys may
start and have started, by nesting, and the tokens in reverse. -/
structure Lexer where
  cursor : Cursor
  flow : Int
  indent : Int
  outer : List Int
  keyAllowed : Bool
  keys : List (Int × KeyStart)
  tokens : List Token
  count : Nat
  done : Bool

namespace Lexer

def start (text : List Char) : Lexer :=
  { cursor := .start text, flow := 0, indent := -1, outer := [], keyAllowed := true, keys := []
    tokens := [], count := 0, done := false }

def inFlow (lexer : Lexer) : Bool := lexer.flow != 0

def emit (lexer : Lexer) (token : Token) : Lexer :=
  { lexer with tokens := token :: lexer.tokens, count := lexer.count + 1 }

def take (lexer : Lexer) (width : Nat) (token : Token) : Lexer :=
  { lexer.emit token with cursor := lexer.cursor.skip width }

def insert (lexer : Lexer) (number : Nat) (token : Token) : Lexer :=
  let behind := lexer.count - number
  { lexer with
    tokens := lexer.tokens.take behind ++ token :: lexer.tokens.drop behind
    count := lexer.count + 1 }

def isFresh (lexer : Lexer) (key : KeyStart) : Bool :=
  key.line == lexer.cursor.line && lexer.cursor.index - key.index ≤ 1024

def freshKeys (lexer : Lexer) : List (Int × KeyStart) := lexer.keys.filter (lexer.isFresh ·.2)

/-- Gives up the keys that have become impossible. -/
def dropStale (lexer : Lexer) : Reading Lexer :=
  if lexer.keys.any fun (_, key) => !lexer.isFresh key && key.required then malformed
  else .ok { lexer with keys := lexer.freshKeys }

def keyHere? (lexer : Lexer) : Option KeyStart :=
  (lexer.keys.find? (·.1 == lexer.flow)).map (·.2)

def forgetKey (lexer : Lexer) : Lexer :=
  { lexer with keys := lexer.keys.filter (·.1 != lexer.flow) }

def dropKey (lexer : Lexer) : Reading Lexer :=
  match lexer.keyHere? with
  | some key => if key.required then malformed else .ok lexer.forgetKey
  | none => .ok lexer

/-- Notes that the next token may be a key. -/
def noteKey (lexer : Lexer) : Reading Lexer :=
  if lexer.keyAllowed then do
    let required := !lexer.inFlow && lexer.indent == lexer.cursor.column
    let lexer ← lexer.dropKey
    let key : KeyStart :=
      ⟨lexer.count, required, lexer.cursor.index, lexer.cursor.line, lexer.cursor.column⟩
    return { lexer with keys := (lexer.flow, key) :: lexer.keys }
  else .ok lexer

/-- Closes the blocks that are indented deeper than a column. -/
def closeBlocks (column : Int) : List Int → Lexer → Lexer
  | [], lexer => lexer
  | next :: rest, lexer =>
    if column < lexer.indent then
      closeBlocks column rest { lexer.emit .blockEnd with indent := next, outer := rest }
    else lexer

def unindent (lexer : Lexer) (column : Int) : Lexer :=
  if lexer.inFlow then lexer else closeBlocks column lexer.outer lexer

/-- Opens a block at a column, if it is deeper than the open ones. -/
def opensBlock (lexer : Lexer) (column : Int) : Option Lexer :=
  if lexer.indent < column then
    some { lexer with outer := lexer.indent :: lexer.outer, indent := column }
  else none

def openBlock (lexer : Lexer) (token : Token) : Lexer :=
  match lexer.opensBlock lexer.cursor.column with
  | some lexer => lexer.emit token
  | none => lexer

/-- Skips spaces, comments and line ends. Outside brackets a key may start on a new line. -/
def skipToToken : Nat → Lexer → Lexer
  | 0, lexer => lexer
  | fuel + 1, lexer =>
    let cursor := lexer.cursor.skipWhile (· == ' ')
    let cursor := if cursor.peek? == some '#' then cursor.skipWhile (!isBreak ·) else cursor
    match cursor.takeBreak? with
    | some (_, cursor) =>
      skipToToken fuel { lexer with cursor, keyAllowed := lexer.keyAllowed || !lexer.inFlow }
    | none => { lexer with cursor }

def skipMark (lexer : Lexer) : Lexer :=
  if lexer.cursor.index == 0 && lexer.cursor.peek? == some '\ufeff' then
    { lexer with cursor := lexer.cursor.advance }
  else lexer

/-- Ends all blocks before a mark that concerns the whole document. -/
def closeAll (lexer : Lexer) : Reading Lexer := do
  let lexer ← (lexer.unindent (-1)).dropKey
  return { lexer with keyAllowed := false }

def lexEnd (lexer : Lexer) : Reading Lexer := do
  let lexer ← lexer.closeAll
  return { lexer.emit .streamEnd with keys := [], done := true }

def lexDirective (lexer : Lexer) : Reading Lexer := do
  let lexer ← lexer.closeAll
  let (token, cursor) ← Token.readDirective lexer.cursor.advance
  return { lexer.emit token with cursor }

def lexSeparator (lexer : Lexer) (token : Token) : Reading Lexer := do
  return (← lexer.closeAll).take 3 token

def lexFlowStart (lexer : Lexer) (token : Token) : Reading Lexer := do
  let lexer ← lexer.noteKey
  return { lexer.take 1 token with flow := lexer.flow + 1, keyAllowed := true }

def lexFlowEnd (lexer : Lexer) (token : Token) : Reading Lexer := do
  let lexer ← lexer.dropKey
  return { lexer.take 1 token with flow := lexer.flow - 1, keyAllowed := false }

def lexFlowEntry (lexer : Lexer) : Reading Lexer := do
  let lexer ← lexer.dropKey
  return { lexer.take 1 .flowEntry with keyAllowed := true }

def lexBlockEntry (lexer : Lexer) : Reading Lexer := do
  if !lexer.inFlow && !lexer.keyAllowed then malformed
  let lexer := if lexer.inFlow then lexer else lexer.openBlock .blockSequenceStart
  let lexer ← lexer.dropKey
  return { lexer.take 1 .blockEntry with keyAllowed := true }

def lexKey (lexer : Lexer) : Reading Lexer := do
  if !lexer.inFlow && !lexer.keyAllowed then malformed
  let lexer := if lexer.inFlow then lexer else lexer.openBlock .blockMappingStart
  let lexer ← lexer.dropKey
  return { lexer.take 1 .key with keyAllowed := !lexer.inFlow }

/-- Marks what started at `key` as a key, and as the start of a block if it is one. -/
def markKey (lexer : Lexer) (key : KeyStart) : Lexer :=
  let lexer := lexer.forgetKey.insert key.number .key
  if lexer.inFlow then lexer
  else
    match lexer.opensBlock key.column with
    | some lexer => lexer.insert key.number .blockMappingStart
    | none => lexer

def lexValue (lexer : Lexer) : Reading Lexer := do
  match lexer.keyHere? with
  | some key => return { (lexer.markKey key).take 1 .value with keyAllowed := false }
  | none =>
    if !lexer.inFlow && !lexer.keyAllowed then malformed
    let lexer := if lexer.inFlow then lexer else lexer.openBlock .blockMappingStart
    let lexer ← lexer.dropKey
    return { lexer.take 1 .value with keyAllowed := !lexer.inFlow }

def lexKeyed (lexer : Lexer) (read : Cursor → Reading (Token × Cursor)) : Reading Lexer := do
  let lexer ← lexer.noteKey
  let (token, cursor) ← read lexer.cursor
  return { lexer.emit token with cursor, keyAllowed := false }

def lexQuoted (lexer : Lexer) (quote : Quote) : Reading Lexer :=
  lexer.lexKeyed fun cursor =>
    (quotedScalar quote cursor).map fun (text, cursor) => (.scalar text false, cursor)

def lexBlock (lexer : Lexer) (style : BlockStyle) : Reading Lexer := do
  let lexer ← lexer.dropKey
  let (text, cursor) ← blockScalar style lexer.indent lexer.cursor
  return { lexer.emit (.scalar text false) with cursor, keyAllowed := true }

def lexPlain (lexer : Lexer) : Reading Lexer := do
  let lexer ← lexer.noteKey
  let scalar := plainScalar lexer.inFlow lexer.indent lexer.cursor
  return { lexer.emit (.scalar (String.ofList scalar.text) true) with
    cursor := scalar.cursor, keyAllowed := scalar.keyAllowed }

def isIndicator (c : Char) : Bool :=
  ['-', '?', ':', ',', '[', ']', '{', '}', '#', '&', '*', '!', '|', '>', '\'', '"', '%', '@',
    '\x60'].contains c

def startsPlain (lexer : Lexer) (c : Char) : Bool :=
  !(isSpace c || isBreak c || isIndicator c)
    || (!lexer.cursor.blankAt 1 && (c == '-' || (!lexer.inFlow && (c == '?' || c == ':'))))

/-- Does a mark stand here that needs a gap behind it outside brackets? -/
def marks (lexer : Lexer) : Bool := lexer.inFlow || lexer.cursor.blankAt 1

/-- The next token, by its first character. -/
def lexToken (lexer : Lexer) : Reading Lexer :=
  let atStart := lexer.cursor.column == 0
  match lexer.cursor.peek? with
  | none => lexer.lexEnd
  | some c =>
    if c == '%' && atStart then lexer.lexDirective
    else if atStart && lexer.cursor.atMarks '-' then lexer.lexSeparator .documentStart
    else if atStart && lexer.cursor.atMarks '.' then lexer.lexSeparator .documentEnd
    else if c == '[' then lexer.lexFlowStart .flowSequenceStart
    else if c == '{' then lexer.lexFlowStart .flowMappingStart
    else if c == ']' then lexer.lexFlowEnd .flowSequenceEnd
    else if c == '}' then lexer.lexFlowEnd .flowMappingEnd
    else if c == ',' then lexer.lexFlowEntry
    else if c == '-' && lexer.cursor.blankAt 1 then lexer.lexBlockEntry
    else if c == '?' && lexer.marks then lexer.lexKey
    else if c == ':' && lexer.marks then lexer.lexValue
    else if c == '*' then
      lexer.lexKeyed fun cursor =>
        (Token.readAnchor cursor.advance).map fun (name, cursor) => (.alias name, cursor)
    else if c == '&' then
      lexer.lexKeyed fun cursor =>
        (Token.readAnchor cursor.advance).map fun (name, cursor) => (.anchor name, cursor)
    else if c == '!' then lexer.lexKeyed Token.readTag
    else if c == '|' && !lexer.inFlow then lexer.lexBlock .literal
    else if c == '>' && !lexer.inFlow then lexer.lexBlock .folded
    else if c == '\'' then lexer.lexQuoted .single
    else if c == '"' then lexer.lexQuoted .double
    else if lexer.startsPlain c then lexer.lexPlain
    else malformed

def step (lexer : Lexer) : Reading Lexer := do
  let lexer ← (skipToToken (lexer.cursor.rest.length + 1) lexer.skipMark).dropStale
  (lexer.unindent lexer.cursor.column).lexToken

/-- How many tokens stand firm: those before the first that may still become a key. -/
def firm (lexer : Lexer) : Nat :=
  lexer.freshKeys.foldl (fun least (_, key) => min least key.number) lexer.count

/-- All tokens of a text. Where reading stops, the tokens that stand firm remain. -/
def run : Nat → Lexer → List Token
  | 0, lexer => lexer.tokens.reverse
  | fuel + 1, lexer =>
    if lexer.done then lexer.tokens.reverse
    else
      match lexer.step with
      | .ok lexer => run fuel lexer
      | .error stop => lexer.tokens.reverse.take lexer.firm ++ [.stopped stop]

end Lexer

/-- The tokens of a text. Every step takes a character or is the last. -/
def Token.ofText (text : List Char) : List Token := Lexer.run (text.length + 2) (.start text)

end Conformance.Yaml
