import Conformance.Binary64
import Mathlib.Algebra.Group.Nat.Defs

/-! # Integers beyond the doubles

An integer has no double when it rounds to the first magnitude beyond the finite ones. Rounding
keeps the power of two below a number and never passes the next one, so the question is settled
inside the last binade: there the mantissa that would have to be rounded up is all ones.
-/

namespace Conformance.Binary64

theorem one_pos : 0 < one := by
  unfold one
  exact binaryPower_pos _

/-- The mantissa of a number, rounded to the nearest with ties to even. -/
def roundedMantissa (n step : Nat) : Nat :=
  if 2 * (n % step) < step then n / step
  else if step < 2 * (n % step) then n / step + 1
  else n / step + n / step % 2

theorem nearest_one (n : Nat) :
    nearest n 1 = roundedMantissa n (2 ^ (n.log2 - 52)) * 2 ^ (n.log2 - 52) := by
  simp [nearest, roundedMantissa]

theorem le_roundedMantissa (n step : Nat) : n / step ≤ roundedMantissa n step := by
  unfold roundedMantissa
  split
  · exact Nat.le_refl _
  · split <;> omega

theorem roundedMantissa_le (n step : Nat) : roundedMantissa n step ≤ n / step + 1 := by
  unfold roundedMantissa
  split
  · omega
  · split <;> omega

/-- Rounding does not fall below the power of two that a number has reached. -/
theorem two_pow_log2_le_nearest {n : Nat} (h : n ≠ 0) : 2 ^ n.log2 ≤ nearest n 1 := by
  rw [nearest_one]
  have hlow := Nat.log2_self_le h
  by_cases hsmall : n.log2 < 52
  · have hshift : n.log2 - 52 = 0 := by omega
    have hfloor := le_roundedMantissa n 1
    rw [hshift]
    simp only [Nat.pow_zero, Nat.mul_one, Nat.div_one] at hfloor ⊢
    omega
  · have hsplit : 2 ^ n.log2 = 2 ^ 52 * 2 ^ (n.log2 - 52) := by
      rw [← Nat.pow_add]
      congr 1
      omega
    have hfloor : 2 ^ 52 ≤ n / 2 ^ (n.log2 - 52) := by
      rw [Nat.le_div_iff_mul_le (Nat.two_pow_pos _), ← hsplit]
      exact hlow
    rw [hsplit]
    exact Nat.mul_le_mul_right _ (Nat.le_trans hfloor (le_roundedMantissa _ _))

/-- Rounding does not pass the next power of two. -/
theorem nearest_le_two_pow (n : Nat) : nearest n 1 ≤ 2 ^ (n.log2 + 1) := by
  rw [nearest_one]
  have hhigh := Nat.lt_log2_self (n := n)
  by_cases hsmall : n.log2 < 52
  · have hshift : n.log2 - 52 = 0 := by omega
    rw [hshift]
    simp [roundedMantissa, Nat.mod_one]
    omega
  · have hsplit : 2 ^ (n.log2 + 1) = 2 ^ 53 * 2 ^ (n.log2 - 52) := by
      rw [← Nat.pow_add]
      congr 1
      omega
    have hceil : n / 2 ^ (n.log2 - 52) < 2 ^ 53 := by
      rw [Nat.div_lt_iff_lt_mul (Nat.two_pow_pos _), ← hsplit]
      exact hhigh
    rw [hsplit]
    exact Nat.mul_le_mul_right _ (Nat.le_trans (roundedMantissa_le _ _) hceil)

/-- In the last binade only the greatest mantissa is rounded up to the power of two. -/
theorem two_pow_le_roundedMantissa_iff {n step half : Nat} (hhalf : step = 2 * half)
    (hpos : 0 < half) (hn : n < 2 ^ 53 * step) :
    2 ^ 53 ≤ roundedMantissa n step ↔ 2 ^ 53 * step ≤ n + half := by
  have hstep : 0 < step := by omega
  have hmantissa : n / step < 2 ^ 53 := (Nat.div_lt_iff_lt_mul hstep).mpr hn
  have hrest : n % step < step := Nat.mod_lt n hstep
  have hdivide := Nat.div_add_mod' n step
  by_cases hgreatest : n / step = 2 ^ 53 - 1
  · rw [hgreatest] at hdivide
    unfold roundedMantissa
    rw [hgreatest]
    split
    · omega
    · split <;> omega
  · have hceil := roundedMantissa_le n step
    have hless : n / step * step ≤ (2 ^ 53 - 2) * step := Nat.mul_le_mul_right step (by omega)
    omega

/-- A number that is a power of two, greater, or less by no more than another power of two. -/
def Reaches (bits slack n : Nat) : Prop := 2 ^ bits ≤ n + 2 ^ slack

theorem two_pow_le_nearest_iff {n bits : Nat} (hbits : 54 ≤ bits) :
    2 ^ bits ≤ nearest n 1 ↔ Reaches bits (bits - 54) n := by
  unfold Reaches
  have hhigh := Nat.lt_log2_self (n := n)
  have hdouble : 2 ^ bits = 2 ^ (bits - 1) + 2 ^ (bits - 1) := by
    rw [← Nat.two_mul, ← Nat.pow_succ']
    congr 1
    omega
  have hquarter : 2 ^ (bits - 54) ≤ 2 ^ (bits - 1) := Nat.pow_le_pow_right (by decide) (by omega)
  rcases Nat.lt_trichotomy (n.log2 + 1) bits with hbelow | hlast | habove
  · have hup : 2 ^ (n.log2 + 1) ≤ 2 ^ (bits - 1) := Nat.pow_le_pow_right (by decide) (by omega)
    have hnearest := nearest_le_two_pow n
    have hpos := Nat.two_pow_pos (bits - 1)
    omega
  · have hshift : n.log2 - 52 = bits - 53 := by omega
    have hstep : 2 ^ (bits - 53) = 2 * 2 ^ (bits - 54) := by
      rw [← Nat.pow_succ']
      congr 1
      omega
    have hsplit : 2 ^ bits = 2 ^ 53 * 2 ^ (bits - 53) := by
      rw [← Nat.pow_add]
      congr 1
      omega
    rw [hlast, hsplit] at hhigh
    rw [nearest_one, hshift, hsplit, Nat.mul_le_mul_right_iff (Nat.two_pow_pos _),
      two_pow_le_roundedMantissa_iff hstep (Nat.two_pow_pos _) hhigh]
  · have hne : n ≠ 0 := by
      rintro rfl
      simp at habove
      omega
    have hreach : 2 ^ bits ≤ 2 ^ n.log2 := Nat.pow_le_pow_right (by decide) (by omega)
    have hnearest := two_pow_log2_le_nearest hne
    have hlow := Nat.log2_self_le hne
    have hhalf := Nat.two_pow_pos (bits - 54)
    omega

/-! ## The overflow of an integer -/

/-- Beyond the greatest double by half a spacing or more: the integers that round to infinity. -/
def Beyond (n : Int) : Prop := Reaches 1024 970 n.natAbs

instance (n : Int) : Decidable (Beyond n) := inferInstanceAs (Decidable (_ ≤ _))

/-- Counting in units scales both sides. -/
theorem reaches_scaled_iff (bits slack n unit : Nat) :
    Reaches (bits + unit) (slack + unit) (n * Nat.pow 2 unit) ↔ Reaches bits slack n := by
  simp only [Reaches, Nat.pow_eq, Nat.pow_add, ← Nat.add_mul]
  exact Nat.mul_le_mul_right_iff (Nat.two_pow_pos unit)

theorem finite?_eq_none_iff {x : Binary64} :
    finite? x = none ↔ ∃ negative, x = .infinite negative := by
  cases x <;> simp [finite?]

theorem ofUnits_eq_infinite_iff {negative sign : Bool} {numerator denominator : Nat} :
    ofUnits negative numerator denominator = .infinite sign ↔
      negative = sign ∧ limit ≤ nearest numerator denominator := by
  unfold ofUnits
  dsimp only
  split
  · next h => simp [Nat.not_le.mpr h]
  · next h => simp [Nat.not_lt.mp h]

theorem limit_le_nearest_iff {n : Nat} :
    limit ≤ nearest n 1 ↔ Reaches (1024 + unitBits) (970 + unitBits) n := by
  have hslack : 1024 + unitBits - 54 = 970 + unitBits := rfl
  rw [← hslack, ← two_pow_le_nearest_iff (by decide)]
  unfold limit limitBits
  rw [Nat.pow_eq]

theorem ofInt?_eq_none_iff {n : Int} : ofInt? n = none ↔ Beyond n := by
  have hinfinite : (∃ sign, ofUnits (n < 0) (n.natAbs * one) 1 = .infinite sign) ↔
      limit ≤ nearest (n.natAbs * one) 1 := by
    constructor
    · rintro ⟨sign, h⟩
      exact (ofUnits_eq_infinite_iff.mp h).2
    · intro h
      exact ⟨_, ofUnits_eq_infinite_iff.mpr ⟨rfl, h⟩⟩
  rw [ofInt?, finite?_eq_none_iff, hinfinite, limit_le_nearest_iff]
  unfold one
  exact reaches_scaled_iff 1024 970 n.natAbs unitBits

end Conformance.Binary64
