import Conformance.CommandLine.Arguments
import Conformance.Text.Wrap
import Conformance.Value.Filling

/-!
# Usage and help

The help shows the settings in force. Its text is a template, also where a setting brings a percent
sign into it.
-/

namespace Conformance.CommandLine

def program : String := "shapecheck"

def formatNames : String := ",".intercalate (Report.Format.all.map (·.name))

def usage : String :=
  let margin := String.ofList (List.replicate ("usage: ".length + program.length + 1) ' ')
  s!"usage: {program} [-h] [--format \x7b{formatNames}\x7d]\n"
    ++ margin ++ "[--log-level LOG_LEVEL]\n"
    ++ margin ++ "schema paths [paths ...]\n"

def helpColumn : Nat := 24

/-- The width of explanations on lines of eighty columns with a margin of two. -/
def helpWidth : Nat := 78 - helpColumn

/-- What the slots of the template can show about the option of the log level. -/
def parameters (help : String) : Value.Entries :=
  [(.str "option_strings", .list [.str "--log-level"]), (.str "dest", .str "log_level"),
    (.str "nargs", .null), (.str "const", .null), (.str "default", .null), (.str "type", .null),
    (.str "choices", .null), (.str "required", .bool false), (.str "help", .str help),
    (.str "metavar", .null), (.str "prog", .str program)]

def fillTemplate (template : String) : Except Fault (List Char) :=
  Value.fill .text (Text.readTemplate template) (.dict (parameters template))

/-- Runs of blanks as single spaces. -/
def collapse : List Char → List Char
  | [] => []
  | c :: rest =>
    if c == ' ' || ('\t' ≤ c && c ≤ '\r') then
      match collapse rest with
      | ' ' :: more => ' ' :: more
      | more => ' ' :: more
    else c :: collapse rest

def explanation (text : List Char) : String :=
  let margin := List.replicate helpColumn ' '
  let lines := Text.wrap helpWidth (Text.trim (collapse text))
  String.ofList (lines.flatMap fun line => margin ++ line ++ ['\n'])

def help (settings : Settings) : Except Fault String := do
  let logLevel ← fillTemplate s!"Logging level (default: {settings.logLevel})"
  return usage
    ++ "\nCheck YAML/JSON documents against a shapecheck schema\n"
    ++ "\npositional arguments:\n"
    ++ "  schema                Schema reference, e.g. 'myapp.schemas:REQUEST'\n"
    ++ "  paths                 Document files or directories to check\n"
    ++ "\noptions:\n"
    ++ "  -h, --help            show this help message and exit\n"
    ++ s!"  --format \x7b{formatNames}\x7d\n"
    ++ explanation s!"Output format (default: {settings.format.name})".toList
    ++ "  --log-level LOG_LEVEL\n"
    ++ explanation logLevel
    ++ "\nThe schema is a Python object referenced as 'package.module:ATTRIBUTE'.\n"
    ++ "Directories are searched recursively for *.yaml, *.yml and *.json files.\n"

end Conformance.CommandLine
