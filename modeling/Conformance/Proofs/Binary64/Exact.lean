import Conformance.Proofs.Binary64.Range

/-! # Integers that are doubles

A magnitude with few enough significant bits is its own rounding. So an integer that counts the
same units as a finite double is converted to a double of these units, though zero loses its sign,
and the distance to any other double is the same from both.
-/

namespace Conformance.Binary64

theorem natAbs_signedUnits (negative : Bool) (magnitude : Nat) :
    (signedUnits negative magnitude).natAbs = magnitude := by
  cases negative <;> simp [signedUnits]

/-- A magnitude that fits is not rounded. -/
theorem nearest_of_fits {magnitude : Nat} (h : Fits magnitude) :
    nearest magnitude 1 = magnitude := by
  have hdvd : 2 ^ (magnitude.log2 - 52) ∣ magnitude := h.1
  have hrest : magnitude % 2 ^ (magnitude.log2 - 52) = 0 := Nat.mod_eq_zero_of_dvd hdvd
  have hpos : 2 * 0 < 2 ^ (magnitude.log2 - 52) := Nat.two_pow_pos _
  rw [nearest_one, roundedMantissa, hrest, if_pos hpos]
  exact Nat.div_mul_cancel hdvd

theorem ofUnits_of_fits (negative : Bool) {magnitude : Nat} (h : Fits magnitude) :
    ofUnits negative magnitude 1 = .finite negative magnitude h := by
  have hnearest := nearest_of_fits h
  unfold ofUnits
  dsimp only
  rw [dif_pos (by rw [hnearest]; exact h.2)]
  simp only [hnearest]

theorem signedUnits_natAbs (units : Int) : signedUnits (units < 0) units.natAbs = units := by
  by_cases h : units < 0
  · simp only [signedUnits, h, decide_true, if_true]
    omega
  · simp only [signedUnits, h, decide_false, Bool.false_eq_true, if_false]
    omega

/-- An integer of as many units as a double is converted to a double of these units. -/
theorem ofInt?_of_units {n : Int} {negative : Bool} {magnitude : Nat} (h : Fits magnitude)
    (hunits : n * one = signedUnits negative magnitude) :
    ofInt? n = some (.finite (n < 0) magnitude h) ∧
      signedUnits (n < 0) magnitude = signedUnits negative magnitude := by
  have hmagnitude : (n * one).natAbs = magnitude := by
    rw [hunits, natAbs_signedUnits]
  have hpos : (0 : Int) < (one : Nat) := Int.natCast_pos.mpr one_pos
  have hsign : n * one < 0 ↔ n < 0 := by
    constructor
    · intro hless
      refine Int.not_le.mp fun hn => ?_
      exact absurd hless (Int.not_lt.mpr (Int.mul_nonneg hn (Int.le_of_lt hpos)))
    · exact fun hn => Int.mul_neg_of_neg_of_pos hn hpos
  constructor
  · rw [Int.natAbs_mul, Int.natAbs_natCast] at hmagnitude
    rw [ofInt?, hmagnitude, ofUnits_of_fits _ h, finite?]
    intro sign hinfinite
    cases hinfinite
  · rw [← hunits, ← hmagnitude, ← decide_eq_decide.mpr hsign]
    exact signedUnits_natAbs (n * one)

theorem abs_ofSignedUnits (units : Int) (negative negative' : Bool) :
    (ofSignedUnits units negative).abs = (ofSignedUnits units negative').abs := by
  unfold ofSignedUnits ofUnits
  dsimp only
  split <;> rfl

/-- Two doubles of the same units are at the same distance from every other. -/
theorem abs_sub_of_units {a b : Bool} {m n : Nat} {ha : Fits m} {hb : Fits n}
    (h : signedUnits a m = signedUnits b n) (x : Binary64) :
    (sub (.finite a m ha) x).abs = (sub (.finite b n hb) x).abs := by
  unfold sub
  cases hx : x.neg with
  | nan => rfl
  | infinite negative => rfl
  | finite negative k fits =>
      rw [add, add, h]
      exact abs_ofSignedUnits _ _ _

theorem ofSignedUnits_zero (negative : Bool) :
    ofSignedUnits 0 negative = .finite negative 0 fits_zero := by
  rw [ofSignedUnits, if_pos rfl, Int.natAbs_zero, ofUnits_of_fits _ fits_zero]

/-- A finite double is at no distance from itself. An infinite one is at none that is a number. -/
theorem abs_sub_self_of_finite (negative : Bool) {magnitude : Nat} (fits : Fits magnitude) :
    (sub (.finite negative magnitude fits) (.finite negative magnitude fits)).abs = zero := by
  have hunits : signedUnits negative magnitude + signedUnits (!negative) magnitude = 0 := by
    cases negative with
    | false => exact Int.add_right_neg _
    | true => exact Int.add_left_neg _
  rw [sub, neg, add, hunits, ofSignedUnits_zero]
  rfl

theorem abs_sub_self_of_infinite (negative : Bool) :
    (sub (.infinite negative) (.infinite negative)).abs = .nan := by
  cases negative <;> rfl

end Conformance.Binary64
