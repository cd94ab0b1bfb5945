import Conformance.Value

/-!
# Outcomes

A computation ends with an answer or a fault, and on the way it calls predicates and writes log
records. `Outcome` keeps these events in order beside the result, also when it is a fault.
-/

namespace Conformance

/-- A message for the log: how grave it is, who writes it, and its text. -/
structure LogRecord where
  level : Int
  logger : String
  text : String
  deriving DecidableEq

inductive Event
  | called (label : String) (argument : Value)
  | logged (record : LogRecord)

structure Outcome (α : Type) where
  events : List Event
  result : Except Fault α

namespace Outcome

def pure (a : α) : Outcome α := ⟨[], .ok a⟩

def fail (fault : Fault) : Outcome α := ⟨[], .error fault⟩

/-- Continues with the answer; after a fault nothing more happens. -/
def bind (first : Outcome α) (next : α → Outcome β) : Outcome β :=
  match first.result with
  | .ok a => ⟨first.events ++ (next a).events, (next a).result⟩
  | .error fault => ⟨first.events, .error fault⟩

instance : Monad Outcome where
  pure := pure
  bind := bind

/-- A computation without events. -/
def ofExcept (result : Except Fault α) : Outcome α := ⟨[], result⟩

instance : MonadLift (Except Fault) Outcome := ⟨ofExcept⟩

def log (record : LogRecord) : Outcome Unit := ⟨[.logged record], .ok ()⟩

theorem pure_bind (a : α) (next : α → Outcome β) : (pure a).bind next = next a := rfl

theorem bind_pure (first : Outcome α) : first.bind pure = first := by
  obtain ⟨events, result⟩ := first
  cases result <;> simp [bind, pure]

theorem bind_assoc (first : Outcome α) (f : α → Outcome β) (g : β → Outcome γ) :
    (first.bind f).bind g = first.bind fun a => (f a).bind g := by
  obtain ⟨events, result⟩ := first
  cases result with
  | error fault => rfl
  | ok a =>
    cases h : (f a).result with
    | error fault => simp [bind, h]
    | ok b => simp [bind, h, List.append_assoc]

theorem events_bind_of_ok {first : Outcome α} {next : α → Outcome β} {a : α}
    (h : first.result = .ok a) : (first.bind next).events = first.events ++ (next a).events := by
  simp [bind, h]

theorem events_bind_of_error {first : Outcome α} {next : α → Outcome β} {fault : Fault}
    (h : first.result = .error fault) : (first.bind next).events = first.events := by
  simp [bind, h]

/-- Does every item pass? The first that does not ends the search. -/
def all (test : α → Outcome Bool) : List α → Outcome Bool
  | [] => pure true
  | a :: rest => (test a).bind fun passed => if passed then all test rest else pure false

def records (outcome : Outcome α) : List LogRecord :=
  outcome.events.filterMap fun
    | .logged record => some record
    | .called _ _ => none

def calls (outcome : Outcome α) : List (String × Value) :=
  outcome.events.filterMap fun
    | .called label argument => some (label, argument)
    | .logged _ => none

end Outcome

end Conformance
