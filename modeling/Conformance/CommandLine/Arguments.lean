import Conformance.Regex.Pattern
import Conformance.Settings

/-!
# Arguments of the command line

Options may stand anywhere before a lone `--`, also shortened to a start that fits only one of
them. The first other word is the schema, the words after it up to an option are the paths.
-/

namespace Conformance.CommandLine

inductive Switch
  | help
  | format
  | logLevel
  deriving DecidableEq

/-- The spellings of the options, in the order in which they are offered. -/
def spellings : List (String × Switch) :=
  [("-h", .help), ("--help", .help), ("--format", .format), ("--log-level", .logLevel)]

def Switch.label (switch : Switch) : String :=
  "/".intercalate ((spellings.filter (·.2 == switch)).map (·.1))

inductive UsageFault
  | ambiguous (word : String) (candidates : List String)
  | ignored (switch : Switch) (text : String)
  | missingValue (switch : Switch)
  | unknownFormat (text : String)
  | missing (names : List String)
  | unrecognized (words : List String)
  deriving DecidableEq

def UsageFault.message : UsageFault → String
  | .ambiguous word candidates =>
    s!"ambiguous option: {word} could match " ++ ", ".intercalate candidates
  | .ignored switch text =>
    s!"argument {switch.label}: ignored explicit argument {Text.quoted text}"
  | .missingValue switch => s!"argument {switch.label}: expected one argument"
  | .unknownFormat text =>
    let names := ", ".intercalate (Report.Format.all.map fun format => Text.quoted format.name)
    s!"argument {Switch.format.label}: invalid choice: {Text.quoted text} (choose from {names})"
  | .missing names => "the following arguments are required: " ++ ", ".intercalate names
  | .unrecognized words => "unrecognized arguments: " ++ " ".intercalate words

/-- The role of a word, which its form decides. -/
inductive Role
  | plain
  | separator
  | unknown
  | switch (switch : Switch) (spelling : String) (value : Option String)
  deriving DecidableEq

structure Word where
  text : String
  role : Role

def Word.isSwitch (word : Word) : Bool :=
  match word.role with
  | .unknown | .switch _ _ _ => true
  | _ => false

def Word.isSeparator (word : Word) : Bool := word.role == .separator

/-- A word up to its first equals sign, and what is behind the sign. -/
def splitValue (text : String) : String × Option String :=
  let chars := text.toList
  let name := chars.takeWhile (· != '=')
  match chars.drop name.length with
  | [] => (text, none)
  | _ :: value => (String.ofList name, some (String.ofList value))

def startsWith (text start : String) : Bool := start.toList.isPrefixOf text.toList

/-- The options that a word may stand for when it is no full spelling. -/
def candidates (text : String) : List (String × Switch × Option String) :=
  match text.toList with
  | '-' :: '-' :: _ =>
    let (name, value) := splitValue text
    (spellings.filter fun e => startsWith e.1 name).map fun e => (e.1, e.2, value)
  | '-' :: letter :: rest =>
    spellings.filterMap fun e =>
      if e.1 == String.ofList ['-', letter] then some (e.1, e.2, some (String.ofList rest))
      else if startsWith e.1 text then some (e.1, e.2, none)
      else none
  | _ => []

/-- Words that look like negative numbers are no options. -/
def negativeNumber : Regex.Node := Regex.ofText "^-\\d+$|^-\\d*\\.\\d+$"

/-- The role of a word that may be an option. -/
def roleOf (text : String) : Except UsageFault Role :=
  if text.isEmpty || text == "-" || !startsWith text "-" then .ok .plain
  else
    match spellings.find? (·.1 == text) with
    | some (spelling, switch) => .ok (.switch switch spelling none)
    | none =>
      let (name, value) := splitValue text
      match value, spellings.find? (·.1 == name) with
      | some value, some (spelling, switch) => .ok (.switch switch spelling (some value))
      | _, _ =>
        match candidates text with
        | [(spelling, switch, value)] => .ok (.switch switch spelling value)
        | [] =>
          if negativeNumber.startsWith text.toList || text.toList.contains ' ' then .ok .plain
          else .ok .unknown
        | several => .error (.ambiguous text (several.map (·.1)))

/-- The words with their roles. Behind the separator all are plain. -/
def classify : List String → Except UsageFault (List Word)
  | [] => .ok []
  | text :: rest =>
    if text == "--" then
      .ok (⟨text, .separator⟩ :: rest.map fun text => ⟨text, .plain⟩)
    else do
      let role ← roleOf text
      return ⟨text, role⟩ :: (← classify rest)

structure Given where
  schema : Option String
  paths : Option (List String)
  format : Option (Option Report.Format)
  logLevel : Option String
  extra : List String

/-- What a command line asks for. Without a format the report is one for readers, and yet only the
report is printed. -/
structure Arguments where
  schema : String
  paths : List String
  format : Option Report.Format
  logLevel : Option String
  deriving DecidableEq

inductive Request
  | help
  | check (arguments : Arguments)
  deriving DecidableEq

/-- The texts of words without the first separator. -/
def texts (words : List Word) : List String := (words.map (·.text)).erase "--"

/-- Separators, one plain word and, as `more` says, what may follow it. -/
def takePlain (more : Word → Bool) (words : List Word) : Option (List Word × List Word) :=
  let before := words.takeWhile (·.isSeparator)
  match words.drop before.length with
  | word :: rest =>
    if word.role == .plain then
      some (before ++ word :: rest.takeWhile more, rest.dropWhile more)
    else none
  | [] => none

def takeSchema (given : Given) (words : List Word) : Option (Given × List Word) :=
  (takePlain (·.isSeparator) words).map fun (taken, rest) =>
    ({ given with schema := some ((texts taken).head?.getD "") }, rest)

def takePaths (given : Given) (words : List Word) : Option (Given × List Word) :=
  (takePlain (!·.isSwitch) words).map fun (taken, rest) =>
    ({ given with paths := some (texts taken) }, rest)

/-- Takes the words that are the schema and the paths, as far as they are still missing. -/
def takePositionals (given : Given) (words : List Word) : Given × List Word :=
  match given.schema, given.paths with
  | none, _ =>
    match takeSchema given words with
    | some (given, rest) => (takePaths given rest).getD (given, rest)
    | none => (given, words)
  | some _, none => (takePaths given words).getD (given, words)
  | some _, some _ => (given, words)

-- Option readers differ here: later ones keep a separator that is glued to its option as a value,
-- and ask for help as soon as an `h` is glued to a dash. The command line is read by the older rules.

/-- Notes the value of an option. A lone separator is no value. -/
def noteValue (given : Given) (switch : Switch) (value : String) : Except UsageFault Given :=
  match switch with
  | .help => .ok given
  | .logLevel => .ok { given with logLevel := if value == "--" then none else some value }
  | .format =>
    if value == "--" then .ok { given with format := some none }
    else
      match Report.Format.ofName? value with
      | some format => .ok { given with format := some (some format) }
      | none => .error (.unknownFormat value)

/-- Is asked for help by letters that are glued together? Any other letter is in the way. -/
def helpLetters : List Char → Except UsageFault Unit
  | [] => .error (.ignored .help "")
  | ['h'] => .ok ()
  | 'h' :: rest => helpLetters rest
  | text => .error (.ignored .help (String.ofList text))

def readHelp (spelling : String) (value : Option String) : Except UsageFault Unit :=
  match value with
  | none => .ok ()
  | some text =>
    if spelling == "-h" then helpLetters text.toList else .error (.ignored .help text)

/-- Reads words. Fuel counts them; each call takes one at least. -/
def readWords (settings : Settings) : Nat → Given → List Word → Except UsageFault (Option Given)
  | 0, given, _ => .ok (some given)
  | fuel + 1, given, words =>
    if !words.any (·.isSwitch) then
      let (given, rest) := takePositionals given words
      .ok (some { given with extra := given.extra ++ rest.map (·.text) })
    else
      match words with
      | [] => .ok (some given)
      | word :: rest =>
        match word.role with
        | .unknown =>
          readWords settings fuel { given with extra := given.extra ++ [word.text] } rest
        | .switch .help spelling value => do
          readHelp spelling value
          return none
        | .switch switch _ (some value) => do
          readWords settings fuel (← noteValue given switch value) rest
        | .switch switch _ none =>
          match rest with
          | value :: rest =>
            if value.role == .plain then do
              readWords settings fuel (← noteValue given switch value.text) rest
            else .error (.missingValue switch)
          | [] => .error (.missingValue switch)
        | _ =>
          let (given, left) := takePositionals given words
          if left.length < words.length then readWords settings fuel given left
          else
            let extra := words.takeWhile (!·.isSwitch)
            readWords settings fuel { given with extra := given.extra ++ extra.map (·.text) }
              (words.drop extra.length)

/-- The request that is complete when nothing is missing and nothing is left over. -/
def complete (settings : Settings) (given : Given) : Except UsageFault Request :=
  match given.schema, given.paths with
  | some schema, some paths =>
    if given.extra.isEmpty then
      .ok (.check ⟨schema, paths, given.format.getD (some settings.format), given.logLevel⟩)
    else .error (.unrecognized given.extra)
  | schema, paths =>
    .error <| .missing <|
      (if schema.isNone then ["schema"] else []) ++ (if paths.isNone then ["paths"] else [])

def read (settings : Settings) (arguments : List String) : Except UsageFault Request := do
  let words ← classify arguments
  match ← readWords settings (words.length + 1) ⟨none, none, none, none, []⟩ words with
  | none => return .help
  | some given => complete settings given

end Conformance.CommandLine
