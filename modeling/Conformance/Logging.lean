import Conformance.Outcome
import Conformance.Regex.Pattern
import Conformance.Value.Filling

/-!
# Routing of log records

Records of all loggers reach the root's handlers. Configuring the root replaces its handlers by
two that share the records between the streams: below a level to standard output, from that
level on to standard error.
-/

namespace Conformance.Logging

def debug : Int := 10
def info : Int := 20
def warning : Int := 30
def error : Int := 40
def critical : Int := 50

/-- The names of levels; of two names for a level the first is shown. -/
def levelNames : List (String × Int) :=
  [("CRITICAL", critical), ("FATAL", critical), ("ERROR", error), ("WARNING", warning),
    ("WARN", warning), ("INFO", info), ("DEBUG", debug), ("NOTSET", 0)]

def levelName (level : Int) : String :=
  match levelNames.find? (·.2 == level) with
  | some (name, _) => name
  | none => s!"Level {level}"

/-- The level of a name in any case, or `default` when the name is empty or unknown. -/
def resolveLevel (name : String) (default : Int) : Int :=
  if name.isEmpty then default
  else
    let wanted := String.ofList ((Text.trim name.toList).flatMap Text.upperBasic)
    match levelNames.find? (·.1 == wanted) with
    | some (_, level) => level
    | none => default

inductive Stream
  | output
  | error
  deriving DecidableEq

/-- How a record is written: the parts of a template. -/
abbrev Layout := List Text.TemplatePart

namespace Layout

def namedSlot : Regex.Node :=
  Regex.ofText "(?i)%\\(\\w+\\)[#0+ -]*(\\*|\\d+)?(\\.(\\*|\\d+))?[diouxefgcrsa%]"

/-- Reads a template, the shortest one if it is empty. -/
def read (template : String) : Except Fault Layout :=
  let template := if template.isEmpty then "%(message)s" else template
  if namedSlot.search (Regex.subject template.toList) then .ok (Text.readTemplate template)
  else .error (.value (.template s!"Invalid format '{template}' for '%' style"))

def standard : Layout :=
  [.slot (.plain "name" 's'), .text " - ", .slot (.plain "levelname" 's'), .text " - ",
    .slot (.plain "message" 's')]

/-- What the slots of a layout can show of a record. The time and the place of a record, and the
numbers of its process and its thread, are not known here. -/
def entries (record : LogRecord) : Value.Entries :=
  [(.str "name", .str record.logger), (.str "msg", .str record.text), (.str "args", .tuple []),
    (.str "levelname", .str (levelName record.level)), (.str "levelno", .int record.level),
    (.str "exc_info", .null), (.str "exc_text", .null), (.str "stack_info", .null),
    (.str "threadName", .str "MainThread"), (.str "processName", .str "MainProcess"),
    (.str "message", .str record.text)]

def fill (layout : Layout) (record : LogRecord) : Except Fault String :=
  (Value.fill .text layout (.dict (entries record))).map String.ofList

end Layout

structure Line where
  stream : Stream
  text : String
  deriving DecidableEq

/-- The line of a record, none if the layout cannot be filled. -/
def Layout.line? (layout : Layout) (stream : Stream) (record : LogRecord) : Option Line :=
  match layout.fill record with
  | .ok text => some ⟨stream, text ++ "\n"⟩
  | .error _ => none

/-- A handler writes the records between two levels to a stream. -/
structure Handler where
  stream : Stream
  least : Int
  below : Option Int
  layout : Layout

def Handler.accepts (handler : Handler) (level : Int) : Bool :=
  handler.least ≤ level &&
    match handler.below with
    | some limit => level < limit
    | none => true

structure State where
  level : Int
  handlers : List Handler

def State.initial : State := ⟨warning, []⟩

/-- Replaces the handlers by the two that share the records at `errorLevel`. -/
def State.configure (_ : State) (level errorLevel : Int) (layout : Layout) : State :=
  let errorLevel := max errorLevel debug
  { level
    handlers :=
      [⟨.output, debug, some errorLevel, layout⟩, ⟨.error, errorLevel, none, layout⟩] }

/-- What one record makes the handlers write. Complaints about a layout are left out. -/
def State.emit (state : State) (record : LogRecord) : List Line :=
  if state.level ≤ record.level then
    (state.handlers.filter (·.accepts record.level)).filterMap fun handler =>
      handler.layout.line? handler.stream record
  else []

def written (stream : Stream) (lines : List Line) : String :=
  String.join ((lines.filter (·.stream == stream)).map (·.text))

def record (level : Int) (logger text : String) : LogRecord :=
  ⟨level, if logger.isEmpty then "root" else logger, text⟩

end Conformance.Logging
