import Conformance.Text.Split

/-!
# Paths

A path is kept in its normal spelling: no empty names and no single points. A name of two points
stays, because what it means depends on the files.
-/

namespace Conformance.Files

/-- Where a path starts. Two leading slashes are a start of their own, three are one. -/
inductive Root
  | here
  | top
  | special
  deriving DecidableEq

def Root.text : Root → String
  | .here => ""
  | .top => "/"
  | .special => "//"

structure Path where
  root : Root
  names : List String
  deriving DecidableEq

namespace Path

/-- Does a name say nothing about where the path leads? -/
def isIdle (name : List Char) : Bool := name.isEmpty || name == ['.']

def rootOf : List Char → Root
  | '/' :: '/' :: '/' :: _ => .top
  | '/' :: '/' :: _ => .special
  | '/' :: _ => .top
  | _ => .here

def ofText (text : String) : Path :=
  { root := rootOf text.toList
    names := ((Text.splitOn '/' text.toList).filter fun name => !isIdle name).map String.ofList }

/-- The path's spelling; the empty path is a point. -/
def text (path : Path) : String :=
  if path.root = .here ∧ path.names = [] then "."
  else path.root.text ++ "/".intercalate path.names

/-- What paths are ordered by: the root, if there is one, and the names. -/
def parts (path : Path) : List String :=
  match path.root with
  | .here => path.names
  | root => root.text :: path.names

def child (path : Path) (name : String) : Path := { path with names := path.names ++ [name] }

/-- The last point of a name and what follows it, unless the point is the first or the last
character. -/
def suffixOf (name : List Char) : List Char :=
  let extension := (name.reverse.takeWhile (· != '.')).reverse
  if extension.isEmpty || name.length ≤ extension.length + 1 then []
  else '.' :: extension

def suffix (path : Path) : String :=
  match path.names.getLast? with
  | some name => String.ofList (suffixOf name.toList)
  | none => ""

end Path

end Conformance.Files
