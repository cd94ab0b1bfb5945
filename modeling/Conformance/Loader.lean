import Conformance.Files.Tree
import Conformance.Outcome
import Conformance.Readers
import Conformance.Reference

/-!
# Loading documents

A document is a file with text in JSON, if its suffix says so, or in YAML. A loader may keep the
values it has read, by path: a kept value is given again as long as a file is there, whatever the
file now holds.
-/

namespace Conformance

namespace Document

/-- Is a path one of JSON? Its suffix tells, in any case. -/
def isJson (path : Files.Path) : Bool :=
  path.suffix.toList.map (fun c => Char.ofNat (Text.lowerBasic c.toNat)) ==
    ['.', 'j', 's', 'o', 'n']

/-- The value of a text; faults name where it comes from. -/
def readText (readers : Readers) (source : String) (json : Bool) (text : List Char) :
    Except Fault Value :=
  if json then (readers.json text).mapError (Refusal.toFault (.invalidJson source))
  else (readers.yaml text).mapError (Refusal.toFault (.invalidYaml source))

def bytesOf (path : Files.Path) : Files.Tree → Except Fault (List UInt8)
  | .file bytes => .ok bytes
  | .unreadable fault => .error (.document (.unreadable path.text fault))
  | .pipe | .directory _ _ => .error (.document (.notFile path.text))

def parse (readers : Readers) (path : Files.Path) (bytes : List UInt8) : Except Fault Value :=
  match Text.decodeUtf8 bytes with
  | .error fault => .error (.document (.notText path.text fault))
  | .ok text => readText readers path.text (isJson path) (Text.unifyNewlines text)

def valueOf (readers : Readers) (path : Files.Path) (tree : Files.Tree) : Except Fault Value := do
  parse readers path (← bytesOf path tree)

def fileAt (files : Files.System) (path : Files.Path) : Except Fault Files.Tree := do
  match ← files.lookup path with
  | none => .error (.document (.notFound path.text))
  | some tree => if tree.isFile then return tree else .error (.document (.notFile path.text))

end Document

/-- A loader keeps values if `keeps` counts as true. -/
structure Loader where
  readers : Readers
  keeps : Value
  kept : List (Files.Path × Value)

namespace Loader

def ofReaders (readers : Readers) (keeps : Value) (cacheEnabled : Bool) : Loader :=
  ⟨readers, if keeps.isNull then .bool cacheEnabled else keeps, []⟩

def new (keeps : Value) (cacheEnabled : Bool) : Loader := .ofReaders .standard keeps cacheEnabled

def clear (loader : Loader) : Loader := { loader with kept := [] }

def find? (loader : Loader) (path : Files.Path) : Option Value :=
  if loader.keeps.truthy then (loader.kept.find? (·.1 == path)).map (·.2) else none

def keep (loader : Loader) (path : Files.Path) (value : Value) : Loader :=
  if loader.keeps.truthy then { loader with kept := (path, value) :: loader.kept } else loader

def announce (text : String) : Outcome Unit :=
  .log ⟨Schema.debugLevel, Reference.loaderLogger, text⟩

/-- The value of the document at a path, and the loader that may have kept it. A kept value is given
again before the file is read. -/
def load (loader : Loader) (files : Files.System) (path : Files.Path) : Outcome Value × Loader :=
  match Document.fileAt files path with
  | .error fault => (.fail fault, loader)
  | .ok file =>
    match loader.find? path with
    | some value =>
      (announce s!"Loading document from cache: {path.text}" |>.bind fun _ => pure value, loader)
    | none =>
      let result := Document.valueOf loader.readers path file
      let outcome := (announce s!"Loading document: {path.text}").bind fun _ => .ofExcept result
      match result with
      | .ok value => (outcome, loader.keep path value)
      | .error _ => (outcome, loader)

end Loader

end Conformance
