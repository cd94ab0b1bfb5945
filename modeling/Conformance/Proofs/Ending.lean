import Conformance.Fault

/-! # How a computation ends

A computation that can fail is followed through its sequencing, with what is known of what it gives
and of what it fails with.
-/

namespace Conformance

/-- A computation gives something good, or fails with what it may fail with. -/
inductive Ends (may : ε → Prop) (good : α → Prop) : Except ε α → Prop
  | ok {a : α} (h : good a) : Ends may good (.ok a)
  | error {stop : ε} (h : may stop) : Ends may good (.error stop)

namespace Ends

variable {may : ε → Prop} {good : α → Prop} {good' : β → Prop}

theorem pure {a : α} (h : good a) : Ends may good (pure a) := .ok h

theorem always {result : Except ε α} (hmay : ∀ stop, may stop) (hgood : ∀ a, good a) :
    Ends may good result := by
  cases result with
  | ok a => exact .ok (hgood a)
  | error stop => exact .error (hmay stop)

theorem ite {c : Prop} [Decidable c] {result other : Except ε α} (h : Ends may good result)
    (hother : Ends may good other) : Ends may good (if c then result else other) := by
  split
  · exact h
  · exact hother

/-- What stops only under a condition. -/
theorem guard {c : Prop} [Decidable c] {stop : ε} {result : Except ε α} (h : c → may stop)
    (hresult : Ends may good result) : Ends may good (if c then .error stop else result) := by
  split
  · exact .error (h ‹c›)
  · exact hresult

theorem bind {result : Except ε α} {next : α → Except ε β} (h : Ends may good result)
    (hnext : ∀ a, good a → Ends may good' (next a)) : Ends may good' (result >>= next) := by
  cases h with
  | ok h => exact hnext _ h
  | error h => exact .error h

theorem map {result : Except ε α} {f : α → β} (h : Ends may (fun a => good' (f a)) result) :
    Ends may good' (result.map f) := by
  cases h with
  | ok h => exact .ok h
  | error h => exact .error h

theorem mapError {may' : δ → Prop} {result : Except ε α} {f : ε → δ}
    (h : Ends (fun stop => may' (f stop)) good result) : Ends may' good (result.mapError f) := by
  cases h with
  | ok h => exact .ok h
  | error h => exact .error h

theorem mapM {f : α → Except ε β} (h : ∀ x, Ends may good' (f x)) (xs : List α) :
    Ends may (fun ys => ∀ y ∈ ys, good' y) (xs.mapM f) := by
  induction xs with
  | nil =>
      rw [List.mapM_nil]
      exact .pure (by simp)
  | cons x xs ih =>
      rw [List.mapM_cons]
      refine (h x).bind fun y hy => ih.bind fun ys hys => ?_
      exact .pure (List.forall_mem_cons.2 ⟨hy, hys⟩)

theorem imp {result : Except ε α} {may' : ε → Prop} {good' : α → Prop} (h : Ends may good result)
    (hmay : ∀ stop, may stop → may' stop) (hgood : ∀ a, good a → good' a) :
    Ends may' good' result := by
  cases h with
  | ok h => exact .ok (hgood _ h)
  | error h => exact .error (hmay _ h)

theorem of_ok {a : α} (h : Ends may good (.ok a)) : good a := by
  cases h with
  | ok h => exact h

theorem of_error {stop : ε} (h : Ends may good (.error stop)) : may stop := by
  cases h with
  | error h => exact h

end Ends

/-- A list is gone through with some answers exactly if each step gives its own. -/
theorem mapM_eq_ok_iff {f : α → Except ε β} {xs : List α} {ys : List β} :
    xs.mapM f = .ok ys ↔ xs.map f = ys.map .ok := by
  induction xs generalizing ys with
  | nil => cases ys <;> simp [pure, Except.pure]
  | cons x xs ih =>
      rw [List.mapM_cons]
      cases hx : f x with
      | error stop => cases ys <;> simp [hx, bind, Except.bind]
      | ok y =>
          cases hxs : xs.mapM f with
          | error stop => cases ys <;> simp [hx, hxs, ← ih, bind, Except.bind]
          | ok others =>
              cases ys <;> simp [hx, hxs, ← ih, bind, Except.bind, pure, Except.pure]

theorem exists_mem_of_mapM_eq_ok {f : α → Except ε β} {xs : List α} {ys : List β} {x : α}
    (h : xs.mapM f = .ok ys) (hx : x ∈ xs) : ∃ y ∈ ys, f x = .ok y := by
  have hmem : f x ∈ ys.map Except.ok := mapM_eq_ok_iff.1 h ▸ List.mem_map_of_mem hx
  obtain ⟨y, hy, heq⟩ := List.mem_map.1 hmem
  exact ⟨y, hy, heq.symm⟩

/-- Going through a list stops where the first step does. -/
theorem mapM_eq_error_iff {f : α → Except ε β} {xs : List α} {stop : ε} :
    xs.mapM f = .error stop ↔
      ∃ before x after, xs = before ++ x :: after ∧ (∀ y ∈ before, ∃ b, f y = .ok b) ∧
        f x = .error stop := by
  induction xs with
  | nil => simp [pure, Except.pure]
  | cons first rest ih =>
      rw [List.mapM_cons]
      cases hfirst : f first with
      | error other =>
          constructor
          · rintro ⟨⟩
            exact ⟨[], first, rest, rfl, by simp, hfirst⟩
          · rintro ⟨before, x, after, hsplit, hbefore, hx⟩
            cases before with
            | nil =>
                cases hsplit
                rw [hfirst] at hx
                cases hx
                rfl
            | cons y before =>
                cases hsplit
                obtain ⟨b, hb⟩ := hbefore first List.mem_cons_self
                rw [hfirst] at hb
                cases hb
      | ok b =>
          have hrest : (Except.ok b >>= fun b => do return b :: (← rest.mapM f)) = .error stop ↔
              rest.mapM f = .error stop := by
            cases rest.mapM f <;> simp [bind, Except.bind, pure, Except.pure]
          rw [hrest, ih]
          constructor
          · rintro ⟨before, x, after, rfl, hbefore, hx⟩
            exact ⟨first :: before, x, after, rfl,
              List.forall_mem_cons.2 ⟨⟨b, hfirst⟩, hbefore⟩, hx⟩
          · rintro ⟨before, x, after, hsplit, hbefore, hx⟩
            cases before with
            | nil =>
                cases hsplit
                rw [hfirst] at hx
                cases hx
            | cons y before =>
                cases hsplit
                exact ⟨before, x, after, rfl, (List.forall_mem_cons.1 hbefore).2, hx⟩

end Conformance
