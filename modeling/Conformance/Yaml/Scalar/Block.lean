import Conformance.Yaml.Cursor

/-!
# Block scalars

The header says what becomes of the line ends at the end and may fix the indentation; otherwise the
first line with content fixes it. A literal scalar keeps its line ends, a folded one joins lines
that start with content.
-/

namespace Conformance.Yaml

inductive BlockStyle
  | literal
  | folded
  deriving DecidableEq

/-- What becomes of the line ends at the end: none, one or all stay. -/
inductive Chomping
  | strip
  | clip
  | keep
  deriving DecidableEq

structure BlockHeader where
  chomping : Chomping
  increment : Option Nat

def chomping? : Option Char → Option Chomping
  | some '+' => some .keep
  | some '-' => some .strip
  | _ => none

def digitAt? (cursor : Cursor) : Option Nat :=
  (cursor.peek?.filter (·.isDigit)).map fun c => c.toNat - 0x30

/-- The indicators of a header: a sign and a digit in either order, both optional. -/
def blockHeader (cursor : Cursor) : Reading (BlockHeader × Cursor) := do
  let (header, cursor) :=
    match chomping? cursor.peek? with
    | some chomping =>
      let cursor := cursor.advance
      match digitAt? cursor with
      | some n => (BlockHeader.mk chomping (some n), cursor.advance)
      | none => (BlockHeader.mk chomping none, cursor)
    | none =>
      match digitAt? cursor with
      | some n =>
        let cursor := cursor.advance
        match chomping? cursor.peek? with
        | some chomping => (BlockHeader.mk chomping (some n), cursor.advance)
        | none => (BlockHeader.mk .clip (some n), cursor)
      | none => (BlockHeader.mk .clip none, cursor)
  if header.increment == some 0 || !cursor.atGap then malformed
  else return (header, cursor)

def skipIndentation (limit : Nat) : Nat → Cursor → Cursor
  | 0, cursor => cursor
  | fuel + 1, cursor =>
    if cursor.column < limit && cursor.peek? == some ' ' then
      skipIndentation limit fuel cursor.advance
    else cursor

def blockBreaks (limit : Nat) : Nat → Cursor → List Char → List Char × Cursor
  | 0, cursor, breaks => (breaks, cursor)
  | fuel + 1, cursor, breaks =>
    let cursor := skipIndentation limit limit cursor
    match cursor.takeBreak? with
    | some (c, cursor) => blockBreaks limit fuel cursor (c :: breaks)
    | none => (breaks, cursor)

/-- Empty lines before the first line, in reverse, with the deepest column that was reached. -/
def leadingBreaks : Nat → Cursor → List Char → Nat → List Char × Nat × Cursor
  | 0, cursor, breaks, deepest => (breaks, deepest, cursor)
  | fuel + 1, cursor, breaks, deepest =>
    if cursor.peek? == some ' ' then
      let cursor := cursor.advance
      leadingBreaks fuel cursor breaks (max deepest cursor.column)
    else
      match cursor.takeBreak? with
      | some (c, cursor) => leadingBreaks fuel cursor (c :: breaks) deepest
      | none => (breaks, deepest, cursor)

/-- The lines of a scalar whose content starts at a column. `breaks` holds the empty lines before
the next line; text is collected in reverse. Also gives the end of the last line and the empty
lines behind it. -/
def blockLines (style : BlockStyle) (limit : Nat) :
    Nat → Cursor → List Char → List Char → List Char → List Char × List Char × List Char × Cursor
  | 0, cursor, text, last, breaks => (text, last, breaks, cursor)
  | fuel + 1, cursor, text, last, breaks =>
    if cursor.column = limit && !cursor.rest.isEmpty then
      let startsWithSpace := cursor.endsOr isSpace 0
      let (line, cursor) := cursor.takeWhile (!isBreak ·)
      let text := line.reverse ++ (breaks ++ text)
      let (last, cursor) :=
        match cursor.takeBreak? with
        | some (c, cursor) => ([c], cursor)
        | none => ([], cursor)
      let (breaks, cursor) := blockBreaks limit (cursor.rest.length + 1) cursor []
      if cursor.column = limit && !cursor.rest.isEmpty then
        let folds :=
          style == .folded && last == ['\n'] && !startsWithSpace && !cursor.endsOr isSpace 0
        let joint := if folds then (if breaks.isEmpty then [' '] else []) else last
        blockLines style limit fuel cursor (joint ++ text) last breaks
      else (text, last, breaks, cursor)
    else (text, last, breaks, cursor)

/-- A scalar at its indicator; `indent` is the column of the enclosing block. -/
def blockScalar (style : BlockStyle) (indent : Int) (cursor : Cursor) :
    Reading (String × Cursor) := do
  let (header, cursor) ← blockHeader cursor.advance
  let cursor ← cursor.finishLine
  let least := (max (indent + 1) 1).toNat
  let (limit, breaks, cursor) :=
    match header.increment with
    | some increment =>
      let limit := least + increment - 1
      let (breaks, cursor) := blockBreaks limit (cursor.rest.length + 1) cursor []
      (limit, breaks, cursor)
    | none =>
      let (breaks, deepest, cursor) := leadingBreaks (cursor.rest.length + 1) cursor [] 0
      (max least deepest, breaks, cursor)
  let (text, last, breaks, cursor) :=
    blockLines style limit (cursor.rest.length + 1) cursor [] [] breaks
  let tail :=
    match header.chomping with
    | .strip => []
    | .clip => last
    | .keep => breaks ++ last
  return (String.ofList (tail ++ text).reverse, cursor)

end Conformance.Yaml
