import Conformance.Proofs.Schema.Step

/-! # The trace of a validation

All pairs of a value and a schema that belong to a validation, each before its own children and
from left to right, whether or not validation gets that far. The verdict is that of the first pair
whose check is not passed, and the checks up to it are all that is run.
-/

namespace Conformance.Schema

/-- A value with its schema, followed by the traces of its children in order. -/
def trace (value schema : Value) : List (Value × Value) :=
  (value, schema) :: (children value schema).attach.flatMap fun q => trace q.1.1 q.1.2
termination_by sizeOf schema
decreasing_by exact sizeOf_lt_of_mem_parts (mem_parts_of_mem_children q.2)

theorem trace_eq_cons (value schema : Value) :
    trace value schema =
      (value, schema) :: (children value schema).flatMap fun q => trace q.1 q.2 := by
  have hmap := List.flatMap_map Subtype.val (fun q : Value × Value => trace q.1 q.2)
    (children value schema).attach
  rw [List.attach_map_subtype_val] at hmap
  rw [trace, hmap]

theorem trace_of_childless {value schema : Value} (h : children value schema = []) :
    trace value schema = [(value, schema)] := by
  rw [trace_eq_cons, h]
  rfl

/-- What the root has and every pair hands to its children holds along the trace. -/
theorem forall_mem_trace {related : Value → Value → Prop}
    (step : ∀ value schema, related value schema →
      ∀ q ∈ children value schema, related q.1 q.2)
    {value schema : Value} (h : related value schema) :
    ∀ q ∈ trace value schema, related q.1 q.2 := by
  induction schema using induction_on_parts generalizing value with
  | step schema ih =>
      intro q hq
      rw [trace_eq_cons] at hq
      rcases List.mem_cons.mp hq with rfl | hq
      · exact h
      · obtain ⟨child, hchild, hq⟩ := List.mem_flatMap.mp hq
        exact ih child.2 (mem_parts_of_mem_children hchild) (step value schema h child hchild) q hq

/-- Validation runs the checks of its trace one after the other. -/
theorem validate_eq_all_trace (calls : Interpretation) (value schema : Value) :
    validate calls value schema =
      Outcome.all (fun q => check calls q.1 q.2) (trace value schema) := by
  induction schema using induction_on_parts generalizing value with
  | step schema ih =>
      rw [validate_eq_andThen, trace_eq_cons, Outcome.all_cons, Outcome.all_flatMap]
      congr 1
      apply Outcome.all_congr
      intro q hq
      exact ih q.2 (mem_parts_of_mem_children hq) q.1

theorem passed_validate {calls : Interpretation} {value schema : Value} :
    (validate calls value schema).Passed ↔
      ∀ q ∈ trace value schema, (check calls q.1 q.2).Passed := by
  rw [validate_eq_all_trace, Outcome.passed_all]

/-- A value conforms exactly when every check of the trace is passed. Otherwise the result is that
of the first check that is not, whether it answers false or faults, and what was called and logged
on the way is what the checks up to it call and log. -/
theorem validate_decided_by_first_failure (calls : Interpretation) (value schema : Value) :
    ((validate calls value schema).Passed ↔
      ∀ q ∈ trace value schema, (check calls q.1 q.2).Passed) ∧
    ((∀ q ∈ trace value schema, (check calls q.1 q.2).Passed) ∧
      validate calls value schema =
        ⟨(trace value schema).flatMap fun q => (check calls q.1 q.2).events, .ok true⟩ ∨
    ∃ before q after, trace value schema = before ++ q :: after ∧
      (∀ p ∈ before, (check calls p.1 p.2).Passed) ∧ ¬ (check calls q.1 q.2).Passed ∧
      validate calls value schema =
        ⟨(before.flatMap fun p => (check calls p.1 p.2).events) ++ (check calls q.1 q.2).events,
          (check calls q.1 q.2).result⟩) := by
  refine ⟨passed_validate, ?_⟩
  rw [validate_eq_all_trace]
  rcases Outcome.first_failure (fun q : Value × Value => check calls q.1 q.2)
      (trace value schema) with hall | ⟨before, q, after, hsplit, hbefore, hq⟩
  · left
    exact ⟨hall, Outcome.all_of_passed hall⟩
  · right
    refine ⟨before, q, after, hsplit, hbefore, hq, ?_⟩
    rw [hsplit]
    exact Outcome.all_of_first_failure hbefore hq after

/-! ## How far validation comes -/

/-- Validation comes to a pair of its trace once all checks before it are passed. -/
def ComesTo (calls : Interpretation) (value schema : Value) (q : Value × Value) : Prop :=
  ∃ before after, trace value schema = before ++ q :: after ∧
    ∀ p ∈ before, (check calls p.1 p.2).Passed

theorem ComesTo.mem_trace {calls : Interpretation} {value schema : Value} {q : Value × Value}
    (h : ComesTo calls value schema q) : q ∈ trace value schema := by
  obtain ⟨before, after, hsplit, -⟩ := h
  simp [hsplit]

/-- Validation passes its whole trace or comes to a check that is not passed. -/
theorem passed_or_comesTo (calls : Interpretation) (value schema : Value) :
    (∀ q ∈ trace value schema, (check calls q.1 q.2).Passed) ∨
      ∃ q, ComesTo calls value schema q ∧ ¬ (check calls q.1 q.2).Passed := by
  rcases Outcome.first_failure (fun q : Value × Value => check calls q.1 q.2)
      (trace value schema) with hall | ⟨before, q, after, hsplit, hbefore, hq⟩
  · exact .inl hall
  · exact .inr ⟨q, ⟨before, after, hsplit, hbefore⟩, hq⟩

/-- Validation ends where a check that it comes to is not passed. -/
theorem ComesTo.ends {calls : Interpretation} {value schema : Value} {q : Value × Value}
    (h : ComesTo calls value schema q) (hfails : ¬ (check calls q.1 q.2).Passed) :
    ∃ before : List (Value × Value), (∀ p ∈ before, (check calls p.1 p.2).Passed) ∧
      validate calls value schema =
        ⟨(before.flatMap fun p => (check calls p.1 p.2).events) ++ (check calls q.1 q.2).events,
          (check calls q.1 q.2).result⟩ := by
  obtain ⟨before, after, hsplit, hbefore⟩ := h
  refine ⟨before, hbefore, ?_⟩
  rw [validate_eq_all_trace, hsplit]
  exact Outcome.all_of_first_failure hbefore hfails after

/-- A fault of validation is the fault of one check that it comes to. -/
theorem validate_eq_error_iff {calls : Interpretation} {value schema : Value} {fault : Fault} :
    (validate calls value schema).result = .error fault ↔
      ∃ q, ComesTo calls value schema q ∧ (check calls q.1 q.2).result = .error fault := by
  constructor
  · intro h
    rcases passed_or_comesTo calls value schema with hall | ⟨q, hq, hfails⟩
    · cases h.symm.trans (passed_validate.mpr hall)
    · obtain ⟨before, -, hends⟩ := hq.ends hfails
      exact ⟨q, hq, by rw [← h, hends]⟩
  · rintro ⟨q, hq, hfault⟩
    have hfails : ¬ (check calls q.1 q.2).Passed := by simp [Outcome.Passed, hfault]
    obtain ⟨before, -, hends⟩ := hq.ends hfails
    rw [hends]
    exact hfault

/-- Validation depends on the predicates only through the checks that it comes to. -/
theorem validate_congr {calls calls' : Interpretation} {value schema : Value}
    (h : ∀ q, ComesTo calls value schema q → check calls q.1 q.2 = check calls' q.1 q.2) :
    validate calls value schema = validate calls' value schema := by
  rw [validate_eq_all_trace, validate_eq_all_trace]
  apply Outcome.all_congr_of_reached
  intro before q after hsplit hbefore
  exact h q ⟨before, after, hsplit, hbefore⟩

end Conformance.Schema
