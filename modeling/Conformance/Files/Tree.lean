import Conformance.Fault
import Conformance.Files.Path

/-!
# File trees

What is found at a path, and all that a search finds below it. Paths start at the top of a file
system or in its working directory. A directory may forbid that it is listed or entered, a file that
it is read. There are no links between places, and what the names of a search amount to is not
bounded, while a path that is looked up is.
-/

namespace Conformance.Files

/-- What a directory lets be done: listing its names, and going on to what they name. -/
structure Access where
  list : Bool
  enter : Bool
  deriving DecidableEq

def Access.full : Access := ⟨true, true⟩

inductive Tree
  | file (bytes : List UInt8)
  | unreadable (fault : ReadFault)
  | pipe
  | directory (access : Access) (entries : List (String × Tree))

namespace Tree

def empty : Tree := .directory .full []

/-- Is it a regular file? It need not be readable. -/
def isFile : Tree → Bool
  | .file _ | .unreadable _ => true
  | .pipe | .directory _ _ => false

def child? (tree : Tree) (name : String) : Option Tree :=
  match tree with
  | .directory _ entries => (entries.find? fun e => e.1 == name).map (·.2)
  | _ => none

/-- Stores an entry under a name; an entry of that name keeps its place. -/
def storeEntry (entries : List (String × Tree)) (name : String) (tree : Tree) :
    List (String × Tree) :=
  match entries with
  | [] => [(name, tree)]
  | e :: rest => if e.1 == name then (name, tree) :: rest else e :: storeEntry rest name tree

/-- Puts a tree at a place below, making the directories on the way. -/
def put (tree : Tree) (names : List String) (new : Tree) : Tree :=
  match names with
  | [] => new
  | name :: rest =>
    match tree with
    | .directory access entries =>
      .directory access (storeEntry entries name (((tree.child? name).getD empty).put rest new))
    | _ => .directory .full [(name, empty.put rest new)]

def remove (tree : Tree) (names : List String) : Tree :=
  match tree, names with
  | .directory access entries, [name] => .directory access (entries.filter fun e => e.1 != name)
  | .directory access entries, name :: rest =>
    match tree.child? name with
    | some inner => .directory access (storeEntry entries name (inner.remove rest))
    | none => tree
  | _, _ => tree

mutual

/-- The paths that a search finds below a tree whose own path is given. It passes over what it may
not list, and finds the names in a directory that it may not enter. -/
def pathsBelow (path : Path) (tree : Tree) : List Path :=
  match tree with
  | .directory access entries => if access.list then entriesBelow access.enter path entries else []
  | _ => []
termination_by structural tree

def entriesBelow (enter : Bool) (path : Path) (entries : List (String × Tree)) : List Path :=
  match entries with
  | [] => []
  | (name, tree) :: rest =>
    path.child name ::
      ((if enter then pathsBelow (path.child name) tree else []) ++ entriesBelow enter path rest)
termination_by structural entries

end

end Tree

inductive Lookup
  | found (tree : Tree)
  | absent
  | tooLong
  | denied

/-- Names of more bytes cannot be looked up. -/
def nameLimit : Nat := 255

def pathLimit : Nat := 4095

/-- Follows names from `here`; `above` holds the directories it lies in, the innermost first. Above
the top there is the top. -/
def follow (above : List Tree) (here : Tree) : List String → Lookup
  | [] => .found here
  | name :: rest =>
    match here with
    | .directory access _ =>
      if !access.enter then .denied
      else if name = ".." then
        match above with
        | [] => follow [] here rest
        | outer :: above => follow above outer rest
      else if nameLimit < name.utf8ByteSize then .tooLong
      else
        match here.child? name with
        | some tree => follow (here :: above) tree rest
        | none => .absent
    | _ => .absent

/-- All files, and the names that lead from the top to the working directory. -/
structure System where
  top : Tree
  working : List String

namespace System

def ofWorking (tree : Tree) : System := ⟨.directory .full [("work", tree)], ["work"]⟩

instance : Coe Tree System := ⟨ofWorking⟩

/-- Goes down without asking for permission. What has gone away counts as empty. -/
def descend (above : List Tree) (here : Tree) : List String → List Tree × Tree
  | [] => (above, here)
  | name :: rest => descend (here :: above) ((here.child? name).getD .empty) rest

def start (files : System) (path : Path) : List Tree × Tree :=
  match path.root with
  | .here => descend [] files.top files.working
  | .top | .special => ([], files.top)

def reach (files : System) (path : Path) : Lookup :=
  follow (files.start path).1 (files.start path).2 path.names

/-- What a path leads to, nothing when it cannot be the path of anything. -/
def lookup (files : System) (path : Path) : Except Fault (Option Tree) :=
  if path.text.toList.contains '\x00' then .ok none
  else if pathLimit < path.text.utf8ByteSize then
    .error (.nameTooLong (Text.quoted path.text))
  else
    match files.reach path with
    | .found tree => .ok (some tree)
    | .absent => .ok none
    | .tooLong => .error (.nameTooLong (Text.quoted path.text))
    | .denied => .error (.permissionDenied (Text.quoted path.text))

end System

end Conformance.Files
