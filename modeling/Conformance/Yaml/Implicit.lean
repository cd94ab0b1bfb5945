import Conformance.Regex.Pattern
import Conformance.Yaml.Graph

/-!
# Tags of plain scalars

A scalar without a tag gets one from its text: the first rule that applies to its first character
and matches. All others are texts.
-/

namespace Conformance.Yaml

structure ImplicitRule where
  tag : String
  starts : List Char
  pattern : Regex.Node

def boolPattern : Regex.Node :=
  Regex.ofText <|
    "^(?:yes|Yes|YES|no|No|NO|true|True|TRUE|false|False|FALSE|on|On|ON|off|Off|OFF)$"

def floatPattern : Regex.Node :=
  Regex.ofText <|
    "^(?:[-+]?(?:[0-9][0-9_]*)\\.[0-9_]*(?:[eE][-+][0-9]+)?"
      ++ "|\\.[0-9][0-9_]*(?:[eE][-+][0-9]+)?"
      ++ "|[-+]?[0-9][0-9_]*(?::[0-5]?[0-9])+\\.[0-9_]*"
      ++ "|[-+]?\\.(?:inf|Inf|INF)"
      ++ "|\\.(?:nan|NaN|NAN))$"

def intPattern : Regex.Node :=
  Regex.ofText <|
    "^(?:[-+]?0b[0-1_]+"
      ++ "|[-+]?0[0-7_]+"
      ++ "|[-+]?(?:0|[1-9][0-9_]*)"
      ++ "|[-+]?0x[0-9a-fA-F_]+"
      ++ "|[-+]?[1-9][0-9_]*(?::[0-5]?[0-9])+)$"

def timestampPattern : Regex.Node :=
  Regex.ofText <|
    "^(?:[0-9][0-9][0-9][0-9]-[0-9][0-9]-[0-9][0-9]"
      ++ "|[0-9][0-9][0-9][0-9]-[0-9][0-9]?-[0-9][0-9]?"
      ++ "(?:[Tt]|[ \\t]+)[0-9][0-9]?"
      ++ ":[0-9][0-9]:[0-9][0-9](?:\\.[0-9]*)?"
      ++ "(?:[ \\t]*(?:Z|[-+][0-9][0-9]?(?::[0-9][0-9])?))?)$"

def digits : List Char := ['0', '1', '2', '3', '4', '5', '6', '7', '8', '9']

def implicitRules : List ImplicitRule :=
  [⟨coreTag "bool", ['y', 'Y', 'n', 'N', 't', 'T', 'f', 'F', 'o', 'O'], boolPattern⟩,
    ⟨coreTag "float", '-' :: '+' :: '.' :: digits, floatPattern⟩,
    ⟨coreTag "int", '-' :: '+' :: digits, intPattern⟩,
    ⟨coreTag "merge", ['<'], Regex.ofText "^(?:<<)$"⟩,
    ⟨coreTag "null", ['~', 'n', 'N'], Regex.ofText "^(?:~|null|Null|NULL|)$"⟩,
    ⟨coreTag "timestamp", digits, timestampPattern⟩,
    ⟨coreTag "value", ['='], Regex.ofText "^(?:=)$"⟩,
    ⟨coreTag "yaml", ['!', '&', '*'], Regex.ofText "^(?:!|&|\\*)$"⟩]

/-- The tag that a text gets by its form. The empty text is nothing. -/
def implicitTag (text : String) : String :=
  match text.toList with
  | [] => coreTag "null"
  | c :: rest =>
    match implicitRules.find? fun rule =>
        rule.starts.contains c && rule.pattern.startsWith (c :: rest) with
    | some rule => rule.tag
    | none => coreTag "str"

end Conformance.Yaml
