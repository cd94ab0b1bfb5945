import Conformance.Proofs.Value.Order
import Mathlib.Data.EReal.Basic

/-! # Numbers as extended reals

An integer or a finite double is a real number, an infinity is an end of the line, and a NaN is
neither. The marks by which numbers are compared are these numbers counted in units, so every
comparison is exact, whatever the types and the sizes of its operands.
-/

namespace Conformance.Value

namespace Number

/-- The extended real that a number is. A NaN is none. -/
noncomputable def extended? : Number → Option EReal
  | .int n => some ((n : ℝ) : EReal)
  | .float .nan => none
  | .float (.infinite negative) => some (if negative then ⊥ else ⊤)
  | .float (.finite negative magnitude _) =>
    some ((Binary64.signedUnits negative magnitude / 2 ^ Binary64.unitBits : ℝ) : EReal)

noncomputable def Mark.extended : Mark → EReal
  | .below => ⊥
  | .units n => ((n / Binary64.one : ℝ) : EReal)
  | .above => ⊤

theorem cast_binaryPower (bits : ℕ) : ((Nat.pow 2 bits : ℕ) : ℝ) = 2 ^ bits := by
  rw [Nat.pow_eq, Nat.cast_pow, Nat.cast_ofNat]

theorem cast_one_eq : ((Binary64.one : ℕ) : ℝ) = 2 ^ Binary64.unitBits := by
  unfold Binary64.one
  exact cast_binaryPower _

theorem cast_one_pos : (0 : ℝ) < (Binary64.one : ℕ) := Nat.cast_pos.2 Binary64.one_pos

theorem extended?_eq_map_mark (a : Number) : a.extended? = a.mark?.map Mark.extended := by
  cases a with
  | int n =>
      have hscaled : ((n * (Binary64.one : ℕ) : ℤ) : ℝ) / (Binary64.one : ℕ) = n := by
        rw [Int.cast_mul, Int.cast_natCast]
        exact mul_div_cancel_right₀ _ cast_one_pos.ne'
      simp only [extended?, mark?, Option.map_some, Mark.extended, hscaled]
  | float x =>
      cases x with
      | nan => rfl
      | infinite negative => cases negative <;> rfl
      | finite negative magnitude fits =>
          simp only [extended?, mark?, Option.map_some, Mark.extended, cast_one_eq]

theorem Mark.less_iff (x y : Mark) : x.less y = true ↔ x.extended < y.extended := by
  cases x <;> cases y <;> simp only [Mark.less, Mark.extended]
  case units.units m n =>
    rw [decide_eq_true_iff, EReal.coe_lt_coe_iff, div_lt_div_iff_of_pos_right cast_one_pos,
      Int.cast_lt]
  all_goals
    simp only [lt_self_iff_false, EReal.bot_lt_coe, bot_lt_top, EReal.coe_lt_top, not_lt_bot,
      not_top_lt, Bool.false_eq_true]

/-! ## Comparisons -/

theorem exists_mark_of_extended {a : Number} {x : EReal} (h : a.extended? = some x) :
    ∃ m, a.mark? = some m ∧ m.extended = x := by
  rw [extended?_eq_map_mark] at h
  exact Option.map_eq_some_iff.1 h

theorem less_iff_lt {a b : Number} {x y : EReal} (ha : a.extended? = some x)
    (hb : b.extended? = some y) : a.less b = true ↔ x < y := by
  obtain ⟨m, hm, rfl⟩ := exists_mark_of_extended ha
  obtain ⟨n, hn, rfl⟩ := exists_mark_of_extended hb
  rw [less, hm, hn]
  exact Mark.less_iff m n

/-- Nothing is below a NaN or above it. -/
theorem less_eq_false_iff {a b : Number} :
    a.less b = false ↔
      ∀ x y, a.extended? = some x → b.extended? = some y → y ≤ x := by
  cases ha : a.extended? with
  | none =>
      rw [extended?_eq_map_mark, Option.map_eq_none_iff] at ha
      simp [less, ha]
  | some x =>
      cases hb : b.extended? with
      | none =>
          rw [extended?_eq_map_mark, Option.map_eq_none_iff] at hb
          simp [less, hb]
      | some y =>
          rw [← Bool.not_eq_true, less_iff_lt ha hb, not_lt]
          simp

theorem extended?_of_equal {a b : Number} (h : a.equal b = true) :
    a.extended? = b.extended? := by
  rw [extended?_eq_map_mark, extended?_eq_map_mark, mark?_of_equal h]

/-- Only the infinities are at the ends of the line. -/
theorem ends_iff_infinite {a : Number} {x : EReal} (h : a.extended? = some x) :
    x = ⊥ ∨ x = ⊤ ↔ ∃ negative, a = .float (.infinite negative) := by
  cases a with
  | int n =>
      cases h
      simp
  | float y =>
      cases y with
      | nan => cases h
      | infinite negative =>
          cases h
          cases negative <;> simp
      | finite negative magnitude fits =>
          cases h
          simp

theorem isIntegral_iff {a : Number} :
    a.isIntegral = true ↔ ∃ n : ℤ, a.extended? = some ((n : ℝ) : EReal) := by
  cases a with
  | int n => exact ⟨fun _ => ⟨n, rfl⟩, fun _ => rfl⟩
  | float x =>
      cases x with
      | nan => simp [isIntegral, Binary64.isInteger, extended?]
      | infinite negative => cases negative <;> simp [isIntegral, Binary64.isInteger, extended?]
      | finite negative magnitude fits =>
          have hdvd : magnitude % Binary64.one = 0 ↔
              ((Binary64.one : ℕ) : ℤ) ∣ Binary64.signedUnits negative magnitude := by
            rw [← Nat.dvd_iff_mod_eq_zero, ← Int.natCast_dvd_natCast, ← Int.dvd_natAbs (b :=
              Binary64.signedUnits negative magnitude), Binary64.natAbs_signedUnits]
          simp only [isIntegral, Binary64.isInteger, extended?, beq_iff_eq, hdvd,
            Option.some.injEq, EReal.coe_eq_coe_iff, ← cast_one_eq,
            div_eq_iff cast_one_pos.ne']
          constructor
          · rintro ⟨n, hn⟩
            refine ⟨n, ?_⟩
            rw [hn, Int.cast_mul, Int.cast_natCast, mul_comm]
          · rintro ⟨n, hn⟩
            refine ⟨n, ?_⟩
            rw [mul_comm]
            exact_mod_cast hn

end Number

noncomputable def extended? (value : Value) : Option EReal := value.number?.bind Number.extended?

theorem extended?_of_number {value : Value} {a : Number} (h : value.number? = some a) :
    value.extended? = a.extended? := by
  rw [extended?, h, Option.bind_some]

theorem exists_number_of_extended {value : Value} {x : EReal} (h : value.extended? = some x) :
    ∃ a, value.number? = some a ∧ a.extended? = some x := Option.bind_eq_some_iff.1 h

end Conformance.Value
