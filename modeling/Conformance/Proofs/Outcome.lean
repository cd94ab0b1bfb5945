import Conformance.Outcome

/-! # Calculus of outcomes

Sequencing is read off the two components of an outcome. A conjunction of tests is decided by its
first test that is not passed: that test gives the result, and the events are those of the tests
before it followed by its own.
-/

namespace Conformance.Outcome

@[simp] theorem bind_eq_bind (first : Outcome α) (next : α → Outcome β) :
    first >>= next = first.bind next := rfl

@[simp] theorem pure_eq_pure (a : α) : (Pure.pure a : Outcome α) = pure a := rfl

@[simp] theorem liftM_eq_ofExcept (result : Except Fault α) :
    (liftM result : Outcome α) = ofExcept result := rfl

@[simp] theorem ofExcept_ok (a : α) : ofExcept (.ok a : Except Fault α) = pure a := rfl

@[simp] theorem ofExcept_error (fault : Fault) :
    ofExcept (.error fault : Except Fault α) = fail fault := rfl

@[simp] theorem bind_pure_left (a : α) (next : α → Outcome β) : (pure a).bind next = next a :=
  pure_bind a next

@[simp] theorem bind_pure_right (first : Outcome α) : first.bind pure = first := bind_pure first

@[simp] theorem bind_fail (fault : Fault) (next : α → Outcome β) :
    (fail fault : Outcome α).bind next = fail fault := rfl

theorem bind_of_error {first : Outcome α} {fault : Fault} (h : first.result = .error fault)
    (next next' : α → Outcome β) : first.bind next = first.bind next' := by
  simp [bind, h]

theorem result_bind_of_ok {first : Outcome α} {a : α} (h : first.result = .ok a)
    (next : α → Outcome β) : (first.bind next).result = (next a).result := by
  simp [bind, h]

theorem result_bind_of_error {first : Outcome α} {fault : Fault}
    (h : first.result = .error fault) (next : α → Outcome β) :
    (first.bind next).result = .error fault := by
  simp [bind, h]

theorem result_bind (first : Outcome α) (next : α → Outcome β) :
    (first.bind next).result = first.result >>= fun a => (next a).result := by
  cases h : first.result with
  | ok a => exact result_bind_of_ok h next
  | error fault => exact result_bind_of_error h next

theorem result_bind_eq_ok {first : Outcome α} {next : α → Outcome β} {b : β} :
    (first.bind next).result = .ok b ↔ ∃ a, first.result = .ok a ∧ (next a).result = .ok b := by
  cases h : first.result with
  | ok a => simp [result_bind_of_ok h]
  | error fault => simp [result_bind_of_error h]

/-- A test is passed when it answers true. A false answer and a fault both fail it. -/
def Passed (test : Outcome Bool) : Prop := test.result = .ok true

instance (test : Outcome Bool) : Decidable test.Passed :=
  match h : test.result with
  | .ok true => isTrue h
  | .ok false => isFalse (by simp [Passed, h])
  | .error _ => isFalse (by simp [Passed, h])

@[simp] theorem passed_pure {b : Bool} : (pure b).Passed ↔ b = true := by
  simp [Passed, pure]

@[simp] theorem not_passed_fail (fault : Fault) : ¬ (fail fault : Outcome Bool).Passed := by
  simp [Passed, fail]

@[simp] theorem passed_ofExcept {result : Except Fault Bool} :
    (ofExcept result).Passed ↔ result = .ok true := Iff.rfl

theorem passed_bind {first : Outcome α} {next : α → Outcome Bool} :
    (first.bind next).Passed ↔ ∃ a, first.result = .ok a ∧ (next a).Passed :=
  result_bind_eq_ok

/-- One test after another: the second is run only if the first is passed. -/
def andThen (first second : Outcome Bool) : Outcome Bool :=
  first.bind fun passed => if passed then second else pure false

/-- Leaving with a false answer after a test is running the rest only if the test is passed. -/
theorem bind_return_false (first second : Outcome Bool) :
    (first.bind fun passed => if !passed then pure false else second) = first.andThen second := by
  unfold andThen
  congr 1
  funext passed
  cases passed <;> rfl

theorem andThen_of_passed {first : Outcome Bool} (h : first.Passed) (second : Outcome Bool) :
    first.andThen second = ⟨first.events ++ second.events, second.result⟩ := by
  unfold Passed at h
  simp [andThen, bind, h]

theorem andThen_of_not_passed {first : Outcome Bool} (h : ¬ first.Passed)
    (second : Outcome Bool) : first.andThen second = first := by
  obtain ⟨events, result⟩ := first
  cases result with
  | error fault => rfl
  | ok passed =>
      cases passed with
      | true => exact absurd rfl h
      | false => simp [andThen, bind, pure]

theorem andThen_congr {first second second' : Outcome Bool} (h : first.Passed → second = second') :
    first.andThen second = first.andThen second' := by
  by_cases hfirst : first.Passed
  · rw [h hfirst]
  · rw [andThen_of_not_passed hfirst, andThen_of_not_passed hfirst]

theorem passed_andThen {first second : Outcome Bool} :
    (first.andThen second).Passed ↔ first.Passed ∧ second.Passed := by
  by_cases h : first.Passed
  · simp only [andThen_of_passed h, h, true_and]
    exact Iff.rfl
  · simp [andThen_of_not_passed h, h]

theorem result_andThen_eq_error_iff {first second : Outcome Bool} {fault : Fault} :
    (first.andThen second).result = .error fault ↔
      first.result = .error fault ∨ first.Passed ∧ second.result = .error fault := by
  by_cases h : first.Passed
  · have hr : first.result = .ok true := h
    simp [andThen_of_passed h, h, hr]
  · simp [andThen_of_not_passed h, h]

@[simp] theorem andThen_pure_true (first : Outcome Bool) : first.andThen (pure true) = first := by
  by_cases h : first.Passed
  · have hr : first.result = .ok true := h
    rw [andThen_of_passed h]
    simp [pure, ← hr]
  · exact andThen_of_not_passed h _

theorem andThen_assoc (first second third : Outcome Bool) :
    (first.andThen second).andThen third = first.andThen (second.andThen third) := by
  by_cases h : first.Passed
  · by_cases g : second.Passed
    · have both := passed_andThen.mpr ⟨h, g⟩
      rw [andThen_of_passed both, andThen_of_passed h, andThen_of_passed g, andThen_of_passed h]
      simp
    · have fails : ¬ (first.andThen second).Passed := fun both => g (passed_andThen.mp both).2
      rw [andThen_of_not_passed fails, andThen_of_not_passed g]
  · have fails : ¬ (first.andThen second).Passed := fun both => h (passed_andThen.mp both).1
    rw [andThen_of_not_passed fails, andThen_of_not_passed h, andThen_of_not_passed h]

/-! ## Conjunctions -/

@[simp] theorem all_nil (test : α → Outcome Bool) : all test [] = pure true := rfl

theorem all_cons (test : α → Outcome Bool) (x : α) (xs : List α) :
    all test (x :: xs) = (test x).andThen (all test xs) := rfl

theorem all_append (test : α → Outcome Bool) (xs ys : List α) :
    all test (xs ++ ys) = (all test xs).andThen (all test ys) := by
  induction xs with
  | nil => rfl
  | cons x xs ih => rw [List.cons_append, all_cons, all_cons, ih, andThen_assoc]

theorem all_map (test : β → Outcome Bool) (f : α → β) (xs : List α) :
    all test (xs.map f) = all (fun x => test (f x)) xs := by
  induction xs with
  | nil => rfl
  | cons x xs ih => rw [List.map_cons, all_cons, all_cons, ih]

theorem all_flatMap (test : β → Outcome Bool) (f : α → List β) (xs : List α) :
    all test (xs.flatMap f) = all (fun x => all test (f x)) xs := by
  induction xs with
  | nil => rfl
  | cons x xs ih => rw [List.flatMap_cons, all_append, all_cons, ih]

theorem all_congr {test test' : α → Outcome Bool} {xs : List α}
    (h : ∀ x ∈ xs, test x = test' x) : all test xs = all test' xs := by
  induction xs with
  | nil => rfl
  | cons x xs ih =>
      rw [all_cons, all_cons, h x List.mem_cons_self,
        ih fun y hy => h y (List.mem_cons_of_mem x hy)]

/-- Only the tests up to the first that fails count. -/
theorem all_congr_of_reached {test test' : α → Outcome Bool} {xs : List α}
    (h : ∀ before x after, xs = before ++ x :: after → (∀ y ∈ before, (test y).Passed) →
      test x = test' x) : all test xs = all test' xs := by
  induction xs with
  | nil => rfl
  | cons x xs ih =>
      have hx : test x = test' x := h [] x xs rfl (by simp)
      rw [all_cons, all_cons, ← hx]
      apply andThen_congr
      intro hpassed
      apply ih
      intro before y after hsplit hbefore
      apply h (x :: before) y after (congrArg (x :: ·) hsplit)
      intro z hz
      rcases List.mem_cons.mp hz with rfl | hz
      · exact hpassed
      · exact hbefore z hz

theorem passed_all {test : α → Outcome Bool} {xs : List α} :
    (all test xs).Passed ↔ ∀ x ∈ xs, (test x).Passed := by
  induction xs with
  | nil => simp
  | cons x xs ih => simp [all_cons, passed_andThen, ih]

theorem all_of_passed {test : α → Outcome Bool} {xs : List α} (h : ∀ x ∈ xs, (test x).Passed) :
    all test xs = ⟨xs.flatMap fun x => (test x).events, .ok true⟩ := by
  induction xs with
  | nil => rfl
  | cons x xs ih =>
      rw [all_cons, andThen_of_passed (h x List.mem_cons_self),
        ih fun y hy => h y (List.mem_cons_of_mem x hy), List.flatMap_cons]

/-- Nothing after the first test that fails is run. -/
theorem all_of_first_failure {test : α → Outcome Bool} {before : List α} {x : α}
    (hbefore : ∀ y ∈ before, (test y).Passed) (hx : ¬ (test x).Passed) (after : List α) :
    all test (before ++ x :: after) =
      ⟨(before.flatMap fun y => (test y).events) ++ (test x).events, (test x).result⟩ := by
  have hall := all_of_passed hbefore
  have hpassed : (all test before).Passed := passed_all.mpr hbefore
  rw [all_append, all_cons, andThen_of_passed hpassed, andThen_of_not_passed hx, hall]

/-- A list of tests has a first one that fails, or all are passed. -/
theorem first_failure (test : α → Outcome Bool) (xs : List α) :
    (∀ x ∈ xs, (test x).Passed) ∨
      ∃ before x after, xs = before ++ x :: after ∧ (∀ y ∈ before, (test y).Passed) ∧
        ¬ (test x).Passed := by
  cases h : xs.find? fun x => !decide (test x).Passed with
  | none =>
      left
      intro x hx
      simpa using List.find?_eq_none.mp h x hx
  | some x =>
      right
      obtain ⟨hx, before, after, hsplit, hbefore⟩ := List.find?_eq_some_iff_append.mp h
      refine ⟨before, x, after, hsplit, ?_, by simpa using hx⟩
      intro y hy
      simpa using hbefore y hy

theorem calls_pure (a : α) : (pure a).calls = [] := rfl

theorem calls_ofExcept (result : Except Fault α) : (ofExcept result).calls = [] := rfl

theorem calls_bind_of_ok {first : Outcome α} {a : α} (h : first.result = .ok a)
    (next : α → Outcome β) : (first.bind next).calls = first.calls ++ (next a).calls := by
  simp [calls, events_bind_of_ok h]

theorem calls_bind_of_error {first : Outcome α} {fault : Fault} (h : first.result = .error fault)
    (next : α → Outcome β) : (first.bind next).calls = first.calls := by
  simp [calls, events_bind_of_error h]

theorem calls_andThen_of_passed {first : Outcome Bool} (h : first.Passed)
    (second : Outcome Bool) : (first.andThen second).calls = first.calls ++ second.calls := by
  simp [calls, andThen_of_passed h]

/-! ## Runs that cannot be told apart -/

/-- One result after the same calls. The log may differ. -/
def SameRun (first second : Outcome α) : Prop :=
  first.result = second.result ∧ first.calls = second.calls

theorem SameRun.refl (outcome : Outcome α) : SameRun outcome outcome := ⟨rfl, rfl⟩

theorem SameRun.bind {first first' : Outcome α} {next next' : α → Outcome β}
    (h : SameRun first first') (hnext : ∀ a, first.result = .ok a → SameRun (next a) (next' a)) :
    SameRun (first.bind next) (first'.bind next') := by
  obtain ⟨hresult, hcalls⟩ := h
  cases hfirst : first.result with
  | error fault =>
      have hfirst' := hresult.symm.trans hfirst
      constructor
      · rw [result_bind_of_error hfirst, result_bind_of_error hfirst']
      · rw [calls_bind_of_error hfirst, calls_bind_of_error hfirst', hcalls]
  | ok a =>
      have hfirst' := hresult.symm.trans hfirst
      obtain ⟨hresult', hcalls'⟩ := hnext a hfirst
      constructor
      · rw [result_bind_of_ok hfirst, result_bind_of_ok hfirst', hresult']
      · rw [calls_bind_of_ok hfirst, calls_bind_of_ok hfirst', hcalls, hcalls']

theorem SameRun.andThen {first first' second second' : Outcome Bool} (h : SameRun first first')
    (hsecond : SameRun second second') :
    SameRun (first.andThen second) (first'.andThen second') := by
  apply h.bind
  intro passed _
  cases passed with
  | true => exact hsecond
  | false => exact .refl _

theorem SameRun.all {test test' : α → Outcome Bool} {xs : List α}
    (h : ∀ x ∈ xs, SameRun (test x) (test' x)) :
    SameRun (Outcome.all test xs) (Outcome.all test' xs) := by
  induction xs with
  | nil => exact .refl _
  | cons x xs ih =>
      rw [all_cons, all_cons]
      exact (h x List.mem_cons_self).andThen (ih fun y hy => h y (List.mem_cons_of_mem x hy))

/-- One item replaced in two ways that make the same run. -/
theorem SameRun.all_modify {test : α → Outcome Bool} {replace replace' : α → α} {xs : List α}
    {i : Nat} (h : ∀ x, xs[i]? = some x → SameRun (test (replace x)) (test (replace' x))) :
    SameRun (Outcome.all test (xs.modify i replace)) (Outcome.all test (xs.modify i replace')) := by
  induction xs generalizing i with
  | nil =>
      rw [List.modify_nil, List.modify_nil]
      exact .refl _
  | cons x xs ih =>
      cases i with
      | zero =>
          rw [List.modify_zero_cons, List.modify_zero_cons, all_cons, all_cons]
          exact (h x rfl).andThen (.refl _)
      | succ i =>
          rw [List.modify_succ_cons, List.modify_succ_cons, all_cons, all_cons]
          exact (SameRun.refl _).andThen (ih fun y hy => h y hy)

end Conformance.Outcome
