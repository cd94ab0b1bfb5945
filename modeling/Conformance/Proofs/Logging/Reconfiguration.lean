import Conformance.Proofs.Logging.Routing

/-! # Logging that is configured again

A root may be configured any number of times, by levels or by settings, with records in between.
Every configuration takes the place of what was there before: a record is routed by the last one
alone, once at most, and the records of a stream stand in the order in which they were logged.
-/

namespace Conformance.Logging

inductive Request
  | split (level errorLevel : Int) (layout : Layout)
  | adopt (settings : Settings)

namespace Request

def level : Request → Int
  | .split level _ _ => level
  | .adopt settings => resolveLevel settings.logLevel warning

/-- The level from which on records are errors. -/
def errorLevel : Request → Int
  | .split _ errorLevel _ => errorLevel
  | .adopt settings => resolveLevel settings.printLevel warning

def layout : Request → Layout
  | .split _ _ layout => layout
  | .adopt _ => .standard

def apply (state : State) : Request → State
  | .split level errorLevel layout => state.configure level errorLevel layout
  | .adopt settings => settings.configure state

theorem apply_eq_configure (request : Request) (state : State) :
    request.apply state = state.configure request.level request.errorLevel request.layout := by
  cases request <;> rfl

/-- What a record is written as when the root was last configured by a request. -/
def linesOf (request : Request) (record : LogRecord) : List Line :=
  if request.level ≤ record.level ∧ debug ≤ record.level then
    (request.layout.line? (if max request.errorLevel debug ≤ record.level then .error else .output)
      record).toList
  else []

theorem emit_apply (request : Request) (state : State) (record : LogRecord) :
    (request.apply state).emit record = request.linesOf record := by
  rw [apply_eq_configure, emit_configure]
  rfl

end Request

/-- What happens to the root: it is configured, or a logger below it hands it a record. -/
inductive Step
  | configure (request : Request)
  | log (record : LogRecord)

/-- The root after a step, and what the step writes. -/
def Step.apply (state : State) : Step → State × List Line
  | .configure request => (request.apply state, [])
  | .log record => (state, state.emit record)

def run (state : State) : List Step → State × List Line
  | [] => (state, [])
  | step :: rest =>
    let (next, lines) := step.apply state
    let (final, others) := run next rest
    (final, lines ++ others)

theorem run_append (state : State) (first second : List Step) :
    run state (first ++ second) =
      ((run (run state first).1 second).1,
        (run state first).2 ++ (run (run state first).1 second).2) := by
  induction first generalizing state with
  | nil => rfl
  | cons step rest ih => simp [run, ih, List.append_assoc]

/-- Records leave the root as it is. -/
theorem run_records (state : State) (records : List LogRecord) :
    run state (records.map .log) = (state, records.flatMap state.emit) := by
  induction records with
  | nil => rfl
  | cons record rest ih => simp [run, Step.apply, ih]

/-- Which steps came before a configuration cannot be told from what is written behind it. -/
theorem run_configured (start : State) (history : List Step) (last : Request)
    (records : List LogRecord) :
    (run start (history ++ .configure last :: records.map .log)).2 =
      (run start history).2 ++ records.flatMap last.linesOf := by
  have hemit : (last.apply (run start history).1).emit = last.linesOf :=
    funext fun record => last.emit_apply _ record
  simp [run_append, run, Step.apply, run_records, hemit]

/-- Whatever the root was configured by and has written before, behind the last configuration a
record is written once if it is neither below the level of the root nor below debugging, and
otherwise not at all. It goes to standard error from the level of errors on, which is not below
debugging either, and else to standard output. The lines of each stream keep the order of their
records. Only a layout that cannot be filled leaves a record without its line; the standard one
always can. -/
theorem run_routes_by_last (start : State) (history : List Step) (last : Request)
    (records : List LogRecord) :
    let before := (run start history).2
    let lines := (run start (history ++ .configure last :: records.map .log)).2
    lines = before ++ records.flatMap (fun record =>
      if last.level ≤ record.level ∧ debug ≤ record.level then
        (last.layout.line? (if max last.errorLevel debug ≤ record.level then .error else .output)
          record).toList
      else []) ∧
    (∀ stream, lines.filter (·.stream == stream) =
      before.filter (·.stream == stream) ++
        (records.filter (reaches last.level last.errorLevel stream)).filterMap
          (last.layout.line? stream)) ∧
    ∀ stream record,
      Layout.standard.line? stream record = some ⟨stream, line record ++ "\n"⟩ := by
  dsimp only
  rw [run_configured]
  refine ⟨rfl, fun stream => ?_, line?_standard⟩
  have hemit : (last.apply start).emit = last.linesOf :=
    funext fun record => last.emit_apply start record
  rw [List.filter_append, ← hemit, last.apply_eq_configure, filter_flatMap_emit]

end Conformance.Logging
