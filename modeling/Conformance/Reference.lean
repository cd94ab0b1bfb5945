import Conformance.Schema.Validation
import Conformance.Text.Blank
import Conformance.Text.Split

/-!
# References to schemas

A schema is named by a module and a path of attributes with a colon between them. Modules are
given; none of them holds another, though a name may have points.
-/

namespace Conformance

/-- A module that can be imported, or one that is blocked and has no attributes. -/
structure Module where
  name : String
  attributes : Option (List (String × Value))

abbrev Modules := List Module

namespace Reference

def findModule? (modules : Modules) (name : String) : Option Module :=
  modules.find? (·.name == name)

def joinPoints (parts : List (List Char)) : String :=
  String.ofList (List.intercalate ['.'] parts)

inductive ImportFault
  | absent (name : String)
  | halted (name : String)
  | notPackage (name outer : String)
  deriving DecidableEq

def ImportFault.message : ImportFault → String
  | .absent name => s!"No module named {Text.quoted name}"
  | .halted name => s!"import of {name} halted; None in sys.modules"
  | .notPackage name outer =>
    s!"No module named {Text.quoted name}; {Text.quoted outer} is not a package"

/-- The module whose name has the given parts, the last one first. What is not there is looked
for from the outermost part on. -/
def importParts (modules : Modules) : List (List Char) → Except ImportFault (List (String × Value))
  | [] => .error (.absent "")
  | part :: outer =>
    let name := joinPoints (part :: outer).reverse
    match findModule? modules name with
    | some found =>
      match found.attributes with
      | some attributes => .ok attributes
      | none => .error (.halted name)
    | none =>
      if outer.isEmpty then .error (.absent name)
      else
        let outerName := joinPoints outer.reverse
        match findModule? modules outerName with
        | some _ => .error (.notPackage name outerName)
        | none => importParts modules outer

/-- The attributes of a module by its name, which may not start with a point. -/
def importModule (modules : Modules) (name : String) :
    Except Fault (List (String × Value)) :=
  if name.toList.head? = some '.' then .error (.type (.relativeReference name))
  else
    match importParts modules (Text.splitOn '.' name.toList).reverse with
    | .ok attributes => .ok attributes
    | .error cause => .error (.reference (.notImportable name cause.message))

/-- What every module has beside its own attributes. -/
def moduleAttribute? (moduleName : String) (attributes : List (String × Value)) (name : String) :
    Option Value :=
  match attributes.find? (·.1 == name) with
  | some (_, value) => some value
  | none =>
    match name with
    | "__name__" => some (.str moduleName)
    | "__doc__" | "__package__" | "__loader__" | "__spec__" => some .null
    | "__dict__" => some (.foreign "dict")
    | _ => (Value.foreign "module").commonPart? name

def follow? (target : Value) : List String → Option Value
  | [] => some target
  | name :: rest => (target.part? name).bind (follow? · rest)

def attribute? (moduleName : String) (attributes : List (String × Value)) (path : String) :
    Option Value :=
  match (Text.splitOn '.' path.toList).map String.ofList with
  | [] => none
  | name :: rest => (moduleAttribute? moduleName attributes name).bind (follow? · rest)

def isSchema (value : Value) : Bool :=
  Schema.isSimple value ||
    match value with
    | .complexSchema _ _ _ _ _ _ _ _ => true
    | _ => false

/-- The two sides of the only colon in a text, without blanks around them. -/
def sides? (text : String) : Option (String × String) :=
  match Text.splitOn ':' text.toList with
  | [left, right] =>
    some (String.ofList (Text.trim left), String.ofList (Text.trim right))
  | _ => none

def loaderLogger : String := "shapecheck.loader"

/-- The schema that the text of a reference names. A reference with a text can always be written. -/
def resolveText (modules : Modules) (reference : Value) (text : String) : Outcome Value := do
  match sides? text with
  | none => .fail (.reference (.malformed reference.printed))
  | some (moduleName, path) =>
    if moduleName.isEmpty || path.isEmpty then
      .fail (.reference (.emptyPart reference.printed))
    else
      let attributes ← importModule modules moduleName
      match attribute? moduleName attributes path with
      | none => .fail (.reference (.noAttribute moduleName path))
      | some target =>
        if isSchema target then
          .log ⟨Schema.debugLevel, loaderLogger,
            "Resolved schema reference " ++ reference.displayed⟩
          return target
        else .fail (.reference (.notSchema reference.displayed target.typeName))

def resolve (modules : Modules) (reference : Value) : Outcome Value :=
  match reference.text? with
  | some text => resolveText modules reference text
  | none => do
    let printed ← reference.shown
    .fail (.reference (.malformed printed))

end Reference

end Conformance
