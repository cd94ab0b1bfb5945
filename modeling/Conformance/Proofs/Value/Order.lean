import Conformance.Proofs.Binary64.Exact
import Conformance.Value.Operations

/-! # The order of numbers

Integers and doubles are ordered by their marks. A NaN has no mark, so it is neither below nor
above anything, and no bound on it is ever broken.
-/

namespace Conformance.Value

namespace Number

theorem Mark.less_trans {x y z : Mark} (h : x.less y = true) (g : y.less z = true) :
    x.less z = true := by
  cases x <;> cases y <;> cases z <;> simp_all [Mark.less]
  omega

theorem less_eq_true_iff {a b : Number} :
    a.less b = true ↔ ∃ x y, a.mark? = some x ∧ b.mark? = some y ∧ x.less y = true := by
  unfold less
  cases a.mark? <;> cases b.mark? <;> simp

theorem equal_eq_true_iff {a b : Number} :
    a.equal b = true ↔ ∃ x, a.mark? = some x ∧ b.mark? = some x := by
  unfold equal
  cases ha : a.mark? with
  | none => simp
  | some x =>
      cases hb : b.mark? with
      | none => simp
      | some y =>
          simp only [beq_iff_eq, Option.some.injEq]
          exact ⟨fun h => ⟨x, rfl, h.symm⟩, fun ⟨_, hx, hy⟩ => hx.trans hy.symm⟩

theorem less_trans {a b c : Number} (h : a.less b = true) (g : b.less c = true) :
    a.less c = true := by
  obtain ⟨x, y, ha, hb, hxy⟩ := less_eq_true_iff.mp h
  obtain ⟨y', z, hb', hc, hyz⟩ := less_eq_true_iff.mp g
  cases hb.symm.trans hb'
  exact less_eq_true_iff.mpr ⟨x, z, ha, hc, Mark.less_trans hxy hyz⟩

/-- Integers are ordered as integers. -/
theorem less_int (a b : Int) : (Number.int a).less (.int b) = decide (a < b) := by
  have hpos : (0 : Int) < (Binary64.one : Nat) := Int.natCast_pos.mpr Binary64.one_pos
  have hscaled : a * Binary64.one < b * Binary64.one ↔ a < b :=
    ⟨fun h => Int.lt_of_mul_lt_mul_right h (Int.le_of_lt hpos),
      fun h => Int.mul_lt_mul_of_pos_right h hpos⟩
  simp only [less, mark?, Mark.less, hscaled]

theorem equal_int (a b : Int) : (Number.int a).equal (.int b) = decide (a = b) := by
  have hpos : (0 : Int) < (Binary64.one : Nat) := Int.natCast_pos.mpr Binary64.one_pos
  have hscaled : a * Binary64.one = b * Binary64.one ↔ a = b :=
    Int.mul_eq_mul_right_iff (Int.ne_of_gt hpos)
  have hmarks : (Mark.units (a * Binary64.one) == .units (b * Binary64.one)) =
      decide (Mark.units (a * Binary64.one) = .units (b * Binary64.one)) := by
    rw [Bool.eq_iff_iff, beq_iff_eq, decide_eq_true_iff]
  simp only [equal, mark?, hmarks, Mark.units.injEq, hscaled]

/-- Below or equal. A NaN stands in this relation to nothing. -/
def AtMost (a b : Number) : Prop := a.less b = true ∨ a.equal b = true

theorem AtMost.less_of_less {a b c : Number} (h : AtMost a b) (g : b.less c = true) :
    a.less c = true := by
  rcases h with h | h
  · exact less_trans h g
  · obtain ⟨x, ha, hb⟩ := equal_eq_true_iff.mp h
    obtain ⟨y, z, hb', hc, hyz⟩ := less_eq_true_iff.mp g
    cases hb.symm.trans hb'
    exact less_eq_true_iff.mpr ⟨x, z, ha, hc, hyz⟩

theorem AtMost.less_trans {a b c : Number} (h : a.less b = true) (g : AtMost b c) :
    a.less c = true := by
  rcases g with g | g
  · exact Number.less_trans h g
  · obtain ⟨y, hb, hc⟩ := equal_eq_true_iff.mp g
    obtain ⟨x, y', ha, hb', hxy⟩ := less_eq_true_iff.mp h
    cases hb.symm.trans hb'
    exact less_eq_true_iff.mpr ⟨x, y, ha, hc, hxy⟩

/-- Every double is one, and an integer is one unless it lies beyond them. -/
theorem toDouble?_eq_none_iff {a : Number} :
    a.toDouble? = none ↔ ∃ n, a = .int n ∧ Binary64.Beyond n := by
  -- The conversion is rewritten and never unfolded: its values are far too large to compute with.
  constructor
  · intro h
    cases a with
    | int n =>
        rw [toDouble?, Binary64.ofInt?_eq_none_iff] at h
        exact ⟨n, rfl, h⟩
    | float x => cases h
  · rintro ⟨n, rfl, h⟩
    rw [toDouble?, Binary64.ofInt?_eq_none_iff]
    exact h

theorem toDouble_eq_error_iff {a : Number} {fault : Fault} :
    a.toDouble = .error fault ↔ fault = .overflow .integerToDouble ∧ a.toDouble? = none := by
  unfold toDouble
  cases a.toDouble? <;> simp [eq_comm]

theorem mark?_of_equal {a b : Number} (h : a.equal b = true) : a.mark? = b.mark? := by
  obtain ⟨mark, ha, hb⟩ := equal_eq_true_iff.mp h
  rw [ha, hb]

theorem less_of_equal {a b : Number} (h : a.equal b = true) (c : Number) :
    a.less c = b.less c ∧ c.less a = c.less b := by
  simp only [less, mark?_of_equal h, and_self]

/-- What equals a double is the double itself, or else a number that counts the same units. -/
theorem cases_of_equal_float {a : Number} {x : Binary64} (h : a.equal (.float x) = true) :
    a = .float x ∨ ∃ negative magnitude fits, x = .finite negative magnitude fits ∧
      ((∃ n : Int, a = .int n ∧ n * Binary64.one = Binary64.signedUnits negative magnitude) ∨
        ∃ other, a = .float (.finite other magnitude fits) ∧
          Binary64.signedUnits other magnitude = Binary64.signedUnits negative magnitude) := by
  have hmark := mark?_of_equal h
  cases x with
  | nan =>
      obtain ⟨mark, -, hnan⟩ := equal_eq_true_iff.mp h
      cases hnan
  | infinite negative =>
      cases a with
      | int n => cases negative <;> cases hmark
      | float y =>
          left
          cases y with
          | nan => simp [mark?] at hmark
          | infinite other => cases negative <;> cases other <;> simp [mark?] at hmark ⊢
          | finite other magnitude fits => cases negative <;> simp [mark?] at hmark
  | finite negative magnitude fits =>
      right
      refine ⟨negative, magnitude, fits, rfl, ?_⟩
      cases a with
      | int n =>
          simp only [mark?, Option.some.injEq, Mark.units.injEq] at hmark
          exact .inl ⟨n, rfl, hmark⟩
      | float y =>
          right
          cases y with
          | nan => simp [mark?] at hmark
          | infinite other => cases other <;> simp [mark?] at hmark
          | finite other magnitude' fits' =>
              simp only [mark?, Option.some.injEq, Mark.units.injEq] at hmark
              have hmagnitude := congrArg Int.natAbs hmark
              rw [Binary64.natAbs_signedUnits, Binary64.natAbs_signedUnits] at hmagnitude
              subst hmagnitude
              exact ⟨other, rfl, hmark⟩

theorem isIntegral_of_equal_float {a : Number} {x : Binary64} (h : a.equal (.float x) = true) :
    a.isIntegral = x.isInteger := by
  rcases cases_of_equal_float h with
    rfl | ⟨negative, magnitude, fits, rfl, ⟨n, rfl, hunits⟩ | ⟨other, rfl, -⟩⟩
  · rfl
  · have hmagnitude := congrArg Int.natAbs hunits
    rw [Binary64.natAbs_signedUnits, Int.natAbs_mul, Int.natAbs_natCast] at hmagnitude
    simp [isIntegral, Binary64.isInteger, ← hmagnitude]
  · rfl

/-- What equals a double is converted to one that is as far from every other double. -/
theorem toDouble?_of_equal_float {a : Number} {x : Binary64} (h : a.equal (.float x) = true) :
    ∃ d, a.toDouble? = some d ∧ ∀ y, (d.sub y).abs = (x.sub y).abs := by
  rcases cases_of_equal_float h with
    rfl | ⟨negative, magnitude, fits, rfl, ⟨n, rfl, hunits⟩ | ⟨other, rfl, hunits⟩⟩
  · exact ⟨x, rfl, fun _ => rfl⟩
  · obtain ⟨hdouble, hsame⟩ := Binary64.ofInt?_of_units fits hunits
    exact ⟨_, hdouble, Binary64.abs_sub_of_units hsame⟩
  · exact ⟨_, rfl, Binary64.abs_sub_of_units hunits⟩

theorem isIntegral_of_equal {a b : Number} (h : a.equal b = true) :
    a.isIntegral = b.isIntegral := by
  cases b with
  | float x => exact isIntegral_of_equal_float h
  | int n =>
      cases a with
      | int m => rfl
      | float x => exact (isIntegral_of_equal_float (equal_comm _ _ ▸ h)).symm

/-- The distance of a number from a double, if the number can be converted. -/
def distance? (a : Number) (y : Binary64) : Option Binary64 :=
  a.toDouble?.map fun d => (d.sub y).abs

theorem distance?_of_equal {a b : Number} (h : a.equal b = true) (y : Binary64) :
    a.distance? y = b.distance? y := by
  have hfloat : ∀ {a : Number} {x : Binary64}, a.equal (.float x) = true →
      a.distance? y = distance? (.float x) y := by
    intro a x hequal
    obtain ⟨d, hd, hsame⟩ := toDouble?_of_equal_float hequal
    rw [distance?, distance?, hd]
    exact congrArg some (hsame y)
  cases b with
  | float x => exact hfloat h
  | int n =>
      cases a with
      | int m =>
          rw [equal_int, decide_eq_true_iff] at h
          rw [h]
      | float x => exact (hfloat (equal_comm _ _ ▸ h)).symm

end Number

/-! ## Values that are numbers -/

theorem kind?_of_null {value : Value} (h : value.isNull = true) : value.kind? = none := by
  cases value <;> first | rfl | cases h

theorem kind?_of_missing {value : Value} (h : value.isMissing = true) : value.kind? = none := by
  cases value <;> first | rfl | cases h

theorem number?_of_kind {value : Value} (h : value.kind? = some .number) :
    ∃ a, value.number? = some a := by
  cases value <;> simp [kind?, number?] at h ⊢
  case member m => cases hb : m.base <;> cases hv : m.value <;> simp_all

theorem text?_of_kind {value : Value} (h : value.kind? = some .string) :
    ∃ s, value.text? = some s := by
  cases value <;> simp [kind?, text?] at h ⊢
  case member m => cases hb : m.base <;> cases hv : m.value <;> simp_all

theorem text?_of_number {value : Value} {a : Number} (h : value.number? = some a) :
    value.text? = none := by
  cases value <;> simp only [number?, reduceCtorEq] at h
  case member m =>
    cases hb : m.base <;> cases hv : m.value <;> simp_all [text?]
  all_goals rfl

theorem number?_of_text {value : Value} {s : String} (h : value.text? = some s) :
    value.number? = none := by
  cases hnumber : value.number? with
  | none => rfl
  | some a => exact absurd (h.symm.trans (text?_of_number hnumber)) (by simp)

theorem compare_of_numbers {left right : Value} {a b : Number} (comparison : Comparison)
    (hleft : left.number? = some a) (hright : right.number? = some b) :
    compare comparison left right = .ok (comparison.apply Number.less a b) := by
  have hatom : atomCompare false comparison left right =
      .ok (comparison.apply Number.less a b) := by
    simp [atomCompare, hleft, hright]
  cases left <;> simp only [number?, reduceCtorEq] at hleft
  all_goals
    rw [compare, compareTurned]
    · exact hatom
    all_goals simp

/-- A number has no order with what is none. -/
theorem compare_of_not_number {left right : Value} {a : Number} (comparison : Comparison)
    (hleft : left.number? = some a) (hright : right.number? = none) :
    compare comparison left right = .error (unordered false comparison left right) := by
  have hatom : atomCompare false comparison left right =
      .error (unordered false comparison left right) := by
    unfold atomCompare
    rw [hleft, hright, text?_of_number hleft]
    cases left <;> first | rfl | cases hleft
  cases left <;> simp only [number?, reduceCtorEq] at hleft
  all_goals
    rw [compare, compareTurned]
    · exact hatom
    all_goals simp

theorem equal_of_numbers {left right : Value} {a b : Number} (hleft : left.number? = some a)
    (hright : right.number? = some b) : equal left right = a.equal b := by
  have hatom : atomEqual left right = a.equal b := by
    simp [atomEqual, hleft, hright]
  cases left <;> simp only [number?, reduceCtorEq] at hleft
  all_goals
    rw [equal]
    · exact hatom
    all_goals simp

theorem minus_eq_error_iff {value : Value} {a : Number} (h : value.number? = some a)
    {subtrahend : Binary64} {fault : Fault} :
    value.minus subtrahend = .error fault ↔
      fault = .overflow .integerToDouble ∧ a.toDouble? = none := by
  rw [← Number.toDouble_eq_error_iff]
  unfold minus
  rw [h]
  cases hd : a.toDouble <;> simp [bind, Except.bind, pure, Except.pure, hd]

end Conformance.Value
