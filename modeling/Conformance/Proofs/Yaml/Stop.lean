import Conformance.Proofs.Ending
import Conformance.Yaml.Meaning
import Conformance.Yaml.Scalar.Quoted

/-! # What stops the reading of YAML

A text that is not YAML stops its reader with `malformed`. The other stops come from a few places
only: a scalar that its tag refuses, a mapping with the tag of timestamps, a mapping that is its own
default value, the number of a version, and the code of an escape (`Escape`). A reading is followed through its sequencing, with what it
yields (`Yields`) and, where it has a state, with an invariant of the state (`Keeps`).
-/

namespace Conformance.Yaml

/-- The faults that end reading by themselves, by the place where they arise. -/
inductive Escape : Fault → Prop
  | scalar {tag text : String} {fault : Fault} {read : String → Reading Value}
      (hread : scalarReader? tag = some read) (hrefused : read text = .error (.fault fault)) :
      Escape fault
  | timestampMapping : Escape (.type (.subject "list"))
  | endless : Escape .tooDeep
  | version {digits : List Char} {fault : Fault}
      (hrefused : Numeral.readInteger 10 digits = .error fault) : Escape fault
  | code {n : Nat} {fault : Fault} (hrefused : charOfCode n = .error (.fault fault)) :
      Escape fault

/-- Malformed text, or one of these faults. -/
def Harmless : Stop → Prop
  | .malformed => True
  | .fault fault => Escape fault

/-- A reading ends with something good, or stops harmlessly. -/
abbrev Yields (good : α → Prop) (reading : Reading α) : Prop := Ends Harmless good reading

abbrev Clean (reading : Reading α) : Prop := Yields (fun _ => True) reading

theorem yields_malformed {good : α → Prop} : Yields good malformed :=
  .error trivial

/-! ## Readings with a state -/

/-- From a state with an invariant, a step leads to such a state or stops harmlessly. -/
def Keeps (invariant : σ → Prop) (step : StateT σ Reading α) : Prop :=
  ∀ s, invariant s → Yields (fun r => invariant r.2) (step s)

section Steps

variable {invariant : σ → Prop}

theorem keeps_pure (a : α) : Keeps invariant (pure a) := fun _ h => .pure h

theorem Keeps.bind {step : StateT σ Reading α} {next : α → StateT σ Reading β}
    (h : Keeps invariant step) (hnext : ∀ a, Keeps invariant (next a)) :
    Keeps invariant (step >>= next) := fun s hs =>
  (h s hs).bind fun r hr => hnext r.1 r.2 hr

theorem Keeps.ite {c : Prop} [Decidable c] {step other : StateT σ Reading α}
    (h : Keeps invariant step) (hother : Keeps invariant other) :
    Keeps invariant (if c then step else other) := by
  split
  · exact h
  · exact hother

/-- What is done with the state may use its invariant. -/
theorem keeps_get_bind {next : σ → StateT σ Reading α}
    (h : ∀ s, invariant s → Keeps invariant (next s)) : Keeps invariant (get >>= next) :=
  fun s hs => h s hs s hs

theorem keeps_set {s : σ} (h : invariant s) : Keeps invariant (set s) :=
  fun _ _ => .pure h

theorem keeps_modify {f : σ → σ} (h : ∀ s, invariant s → invariant (f s)) :
    Keeps invariant (modify f : StateT σ Reading PUnit) :=
  fun s hs => .pure (h s hs)

theorem Keeps.of_clean {reading : Reading α} (h : Clean reading) :
    Keeps invariant (liftM reading : StateT σ Reading α) := fun _ hs =>
  h.bind fun _ _ => .pure hs

theorem Keeps.mapM {f : α → StateT σ Reading β} {xs : List α}
    (h : ∀ x ∈ xs, Keeps invariant (f x)) : Keeps invariant (xs.mapM f) := by
  induction xs with
  | nil =>
      rw [List.mapM_nil]
      exact keeps_pure []
  | cons x xs ih =>
      rw [List.mapM_cons]
      refine (h x List.mem_cons_self).bind fun y => ?_
      exact (ih fun x' hx => h x' (List.mem_cons_of_mem x hx)).bind fun ys => keeps_pure _

theorem Keeps.forM {f : α → StateT σ Reading PUnit} {xs : List α}
    (h : ∀ x ∈ xs, Keeps invariant (f x)) : Keeps invariant (xs.forM f) := by
  induction xs with
  | nil => exact keeps_pure PUnit.unit
  | cons x xs ih =>
      refine (h x List.mem_cons_self).bind fun _ => ?_
      exact ih fun x' hx => h x' (List.mem_cons_of_mem x hx)

theorem Keeps.foldlM {f : β → α → StateT σ Reading β} {xs : List α}
    (h : ∀ x ∈ xs, ∀ b, Keeps invariant (f b x)) (b : β) : Keeps invariant (xs.foldlM f b) := by
  induction xs generalizing b with
  | nil => exact keeps_pure b
  | cons x xs ih =>
      rw [List.foldlM_cons]
      refine (h x List.mem_cons_self b).bind fun b' => ?_
      exact ih (fun x' hx => h x' (List.mem_cons_of_mem x hx)) b'

end Steps

end Conformance.Yaml
