import Conformance.Regex.Pattern
import Conformance.Text.Blank

/-!
# Wrapping text into lines

Text is cut into chunks: spaces, words, and the parts of hyphenated words. Lines are filled with
whole chunks as far as they fit; a chunk that fits no line is broken, behind a hyphen if it has
one.
-/

namespace Conformance.Text

def chunkPattern : Regex.Node :=
  Regex.ofText <|
    "[\\t\\n\\x0b\\x0c\\r ]+"
      ++ "|(?<=[\\w!\"'&.,?])-\x7b2,\x7d(?=\\w)"
      ++ "|[^\\t\\n\\x0b\\x0c\\r ]+?(?:"
      ++ "-(?:(?<=[^\\d\\W]\x7b2\x7d-)|(?<=[^\\d\\W]-[^\\d\\W]-))(?=[^\\d\\W]-?[^\\d\\W])"
      ++ "|(?=[\\t\\n\\x0b\\x0c\\r ]|\\Z)"
      ++ "|(?<=[\\w!\"'&.,?])(?=-\x7b2,\x7d\\w))"

def chunksFrom (subject : Array Nat) : Nat → Nat → List Char → List (List Char)
  | _, _, [] => []
  | 0, _, rest => [rest]
  | fuel + 1, position, rest =>
    let width :=
      match chunkPattern.matchAt subject position with
      | some place => max 1 (place.position - position)
      | none => 1
    rest.take width :: chunksFrom subject fuel (position + width) (rest.drop width)

def chunks (text : List Char) : List (List Char) :=
  chunksFrom (Regex.subject text) text.length 0 text

def isBlankChunk (chunk : List Char) : Bool := chunk.all isBlank

/-- Chunks that fit on a line of `width` characters with `used` taken, in reverse. -/
def fillLine (width : Nat) : Nat → List (List Char) → List (List Char) →
    List (List Char) × List (List Char)
  | _, line, [] => (line, [])
  | used, line, chunk :: rest =>
    if used + chunk.length ≤ width then fillLine width (used + chunk.length) (chunk :: line) rest
    else (line, chunk :: rest)

/-- Where a chunk is broken when `space` characters are left: behind the last hyphen that has
something else before it. -/
def breakPoint (space : Nat) (chunk : List Char) : Nat :=
  let before := (chunk.take space).reverse.dropWhile (· != '-')
  match before with
  | _ :: start => if start.any (· != '-') then start.length + 1 else space
  | [] => space

def breakLong (width : Nat) (line rest : List (List Char)) : List (List Char) × List (List Char) :=
  match rest with
  | chunk :: rest =>
    if width < chunk.length then
      let used := line.foldl (fun total chunk => total + chunk.length) 0
      let point := breakPoint (width - used) chunk
      (chunk.take point :: line, chunk.drop point :: rest)
    else (line, chunk :: rest)
  | [] => (line, [])

def dropBlankHead (chunks : List (List Char)) : List (List Char) :=
  match chunks with
  | chunk :: rest => if isBlankChunk chunk then rest else chunks
  | [] => []

/-- The lines that chunks fill. Blanks at the ends of lines are dropped, also at their starts
but for the first. -/
def wrapChunks (width : Nat) : Nat → Bool → List (List Char) → List (List Char)
  | 0, _, _ => []
  | _, _, [] => []
  | fuel + 1, first, chunks =>
    let chunks := if first then chunks else dropBlankHead chunks
    let (line, rest) := fillLine width 0 [] chunks
    let (line, rest) := breakLong width line rest
    let line := dropBlankHead line
    if line.isEmpty then wrapChunks width fuel first rest
    else line.reverse.flatten :: wrapChunks width fuel false rest

/-- A text in lines of at most `width` characters. -/
def wrap (width : Nat) (text : List Char) : List (List Char) :=
  wrapChunks width (2 * text.length + 1) true (chunks text)

end Conformance.Text
