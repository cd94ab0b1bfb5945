import Conformance.Yaml.Cursor

/-!
# Plain scalars

A plain scalar runs over several lines as long as they are indented deeply enough. It ends at a
comment, at a colon that marks a key, and between brackets at their punctuation.
-/

namespace Conformance.Yaml

def isFlowMark (c : Char) : Bool :=
  c == ',' || c == '?' || c == '[' || c == ']' || c == '{' || c == '}'

/-- Does a plain scalar end before this place? -/
def endsPlain (inFlow : Bool) (cursor : Cursor) : Bool :=
  match cursor.peek? with
  | none => true
  | some c =>
    isSpace c || isBreak c
      || (c == ':' && (cursor.blankAt 1
            || (inFlow && cursor.endsOr (fun d => isFlowMark d && d != '?') 1)))
      || (inFlow && isFlowMark c)

/-- Content without blanks, in reverse. -/
def plainWord (inFlow : Bool) : Nat → Cursor → List Char → List Char × Cursor
  | 0, cursor, word => (word, cursor)
  | fuel + 1, cursor, word =>
    match cursor.peek? with
    | some c =>
      if endsPlain inFlow cursor then (word, cursor)
      else plainWord inFlow fuel cursor.advance (c :: word)
    | none => (word, cursor)

/-- Blanks between two words: what they become, in reverse, and whether a line ended. Absent when
they lead to a separator of documents. -/
structure PlainGap where
  blanks : Option (List Char)
  newLine : Bool
  cursor : Cursor

/-- Empty lines and indentation, up to a separator of documents. -/
def plainBreaks : Nat → Cursor → List Char → Option (List Char) × Cursor
  | 0, cursor, breaks => (some breaks, cursor)
  | fuel + 1, cursor, breaks =>
    if cursor.peek? == some ' ' then plainBreaks fuel cursor.advance breaks
    else
      match cursor.takeBreak? with
      | some (c, cursor) =>
        if cursor.atSeparator then (none, cursor) else plainBreaks fuel cursor (c :: breaks)
      | none => (some breaks, cursor)

def plainGap (cursor : Cursor) : PlainGap :=
  let (spaces, cursor) := cursor.takeWhile (· == ' ')
  match cursor.takeBreak? with
  | none => ⟨some spaces, false, cursor⟩
  | some (first, cursor) =>
    if cursor.atSeparator then ⟨none, true, cursor⟩
    else
      match plainBreaks (cursor.rest.length + 1) cursor [] with
      | (none, cursor) => ⟨none, true, cursor⟩
      | (some breaks, cursor) =>
        let blanks :=
          if first != '\n' then breaks ++ [first]
          else if breaks.isEmpty then [' ']
          else breaks
        ⟨some blanks, true, cursor⟩

/-- What was read of a scalar, and whether it ended at the start of a line, where a key may
stand. -/
structure PlainScalar where
  text : List Char
  keyAllowed : Bool
  cursor : Cursor

/-- The words of a scalar. `gap` holds the blanks before the next word; text is collected in
reverse. Continuation lines must reach the column `least`. -/
def plainWords (inFlow : Bool) (least : Int) :
    Nat → Cursor → List Char → List Char → Bool → PlainScalar
  | 0, cursor, text, _, keyAllowed => ⟨text, keyAllowed, cursor⟩
  | fuel + 1, cursor, text, gap, keyAllowed =>
    if cursor.peek? == some '#' then ⟨text, keyAllowed, cursor⟩
    else
      let (word, cursor) := plainWord inFlow (cursor.rest.length + 1) cursor []
      if word.isEmpty then ⟨text, keyAllowed, cursor⟩
      else
        let text := word ++ (gap ++ text)
        let next := plainGap cursor
        match next.blanks with
        | none => ⟨text, next.newLine, next.cursor⟩
        | some blanks =>
          if blanks.isEmpty || next.cursor.peek? == some '#'
              || (!inFlow && (next.cursor.column : Int) < least) then
            ⟨text, next.newLine, next.cursor⟩
          else plainWords inFlow least fuel next.cursor text blanks next.newLine

/-- A scalar at its first character; `indent` is the column of the enclosing block. -/
def plainScalar (inFlow : Bool) (indent : Int) (cursor : Cursor) : PlainScalar :=
  let scalar :=
    plainWords inFlow (indent + 1) (cursor.rest.length + 1) cursor [] [] false
  { scalar with text := scalar.text.reverse }

end Conformance.Yaml
