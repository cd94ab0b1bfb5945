/-!
# Binary64 numbers

A finite double is a signed multiple of `2 ^ -1074`, so it is stored as a sign and a natural
number of such units. Rounding never leaves that grid, and every order question is one about
integers.
-/

namespace Conformance

namespace Binary64

def unitBits : Nat := 1074

/-- Units in the number one. -/
def one : Nat := Nat.pow 2 unitBits

/-- Doubles lie below `2 ^ 1024`, counted in units. -/
def limitBits : Nat := 1024 + unitBits

/-- The first magnitude beyond the largest finite double. -/
def limit : Nat := Nat.pow 2 limitBits

def spacing (magnitude : Nat) : Nat := Nat.pow 2 (magnitude.log2 - 52)

/-- At most 53 significant bits, and below the limit. -/
def Fits (magnitude : Nat) : Prop := spacing magnitude ∣ magnitude ∧ magnitude < limit

instance (magnitude : Nat) : Decidable (Fits magnitude) := inferInstanceAs (Decidable (_ ∧ _))

theorem spacing_dvd_of_le {mantissa shift : Nat} (h : mantissa ≤ Nat.pow 2 53) :
    spacing (mantissa * Nat.pow 2 shift) ∣ mantissa * Nat.pow 2 shift := by
  unfold spacing
  simp only [Nat.pow_eq] at h ⊢
  rcases Nat.eq_zero_or_pos mantissa with rfl | hpos
  · simp
  · rcases Nat.lt_or_eq_of_le h with hlt | rfl
    · have hlog : mantissa.log2 < 53 := (Nat.log2_lt (by omega)).2 hlt
      have hmul : (mantissa * 2 ^ shift).log2 < 53 + shift := by
        rw [Nat.log2_lt (Nat.ne_of_gt (Nat.mul_pos hpos (Nat.two_pow_pos shift))), Nat.pow_add]
        exact Nat.mul_lt_mul_of_pos_right hlt (Nat.two_pow_pos shift)
      exact Nat.dvd_trans (Nat.pow_dvd_pow 2 (by omega)) (Nat.dvd_mul_left _ _)
    · rw [← Nat.pow_add, Nat.log2_two_pow]
      exact Nat.pow_dvd_pow 2 (by omega)

theorem binaryPower_pos (bits : Nat) : 0 < Nat.pow 2 bits := Nat.two_pow_pos bits

theorem limit_pos : 0 < limit := by
  unfold limit
  exact binaryPower_pos _

theorem fits_zero : Fits 0 := ⟨Nat.dvd_zero _, limit_pos⟩

/-- `numerator / denominator` rounded to 53 significant bits and never below a unit; a tie goes
to the even mantissa. -/
def nearest (numerator denominator : Nat) : Nat :=
  let shift := (numerator / denominator).log2 - 52
  let step := denominator * Nat.pow 2 shift
  let mantissa := numerator / step
  let rest := numerator % step
  let rounded :=
    if 2 * rest < step then mantissa
    else if step < 2 * rest then mantissa + 1
    else mantissa + mantissa % 2
  rounded * Nat.pow 2 shift

theorem spacing_dvd_nearest (numerator denominator : Nat) :
    spacing (nearest numerator denominator) ∣ nearest numerator denominator := by
  unfold nearest
  apply spacing_dvd_of_le
  simp only [Nat.pow_eq]
  have hq : numerator / (denominator * 2 ^ ((numerator / denominator).log2 - 52)) < 2 ^ 53 := by
    rw [← Nat.div_div_eq_div_mul]
    apply Nat.div_lt_of_lt_mul
    rw [← Nat.pow_add]
    refine Nat.lt_of_lt_of_le Nat.lt_log2_self (Nat.pow_le_pow_right (by decide) ?_)
    omega
  have hmod := Nat.mod_lt
    (numerator / (denominator * 2 ^ ((numerator / denominator).log2 - 52))) (by decide : 0 < 2)
  split
  · omega
  · split <;> omega

end Binary64

/-- A double: every magnitude counts units of `2 ^ -1074`. -/
inductive Binary64
  | nan
  | infinite (negative : Bool)
  | finite (negative : Bool) (magnitude : Nat) (fits : Binary64.Fits magnitude)
  deriving DecidableEq

namespace Binary64

instance : Inhabited Binary64 := ⟨.finite false 0 fits_zero⟩

def zero : Binary64 := .finite false 0 fits_zero

/-- The double nearest to `numerator / denominator` units, infinite beyond the largest one. -/
def ofUnits (negative : Bool) (numerator denominator : Nat) : Binary64 :=
  let magnitude := nearest numerator denominator
  if h : magnitude < limit then .finite negative magnitude ⟨spacing_dvd_nearest _ _, h⟩
  else .infinite negative

def signedUnits (negative : Bool) (magnitude : Nat) : Int :=
  if negative then -(magnitude : Int) else magnitude

def ofSignedUnits (units : Int) (zeroNegative : Bool) : Binary64 :=
  ofUnits (if units = 0 then zeroNegative else units < 0) units.natAbs 1

/-- The double itself, absent when it is infinite. -/
def finite? : Binary64 → Option Binary64
  | .infinite _ => none
  | x => some x

/-- An integer as a double, absent when it rounds beyond the finite range. -/
def ofInt? (n : Int) : Option Binary64 := finite? (ofUnits (n < 0) (n.natAbs * one) 1)

def isNegative : Binary64 → Bool
  | .nan => false
  | .infinite negative => negative
  | .finite negative _ _ => negative

def isZero : Binary64 → Bool
  | .finite _ magnitude _ => magnitude == 0
  | _ => false

/-- Whole numbers only: neither a NaN nor an infinity is one. -/
def isInteger : Binary64 → Bool
  | .finite _ magnitude _ => magnitude % one == 0
  | _ => false

def neg : Binary64 → Binary64
  | .nan => .nan
  | .infinite negative => .infinite !negative
  | .finite negative magnitude fits => .finite (!negative) magnitude fits

def abs : Binary64 → Binary64
  | .nan => .nan
  | .infinite _ => .infinite false
  | .finite _ magnitude fits => .finite false magnitude fits

def add : Binary64 → Binary64 → Binary64
  | .nan, _ | _, .nan => .nan
  | .infinite a, .infinite b => if a = b then .infinite a else .nan
  | .infinite a, _ => .infinite a
  | _, .infinite b => .infinite b
  | .finite a m _, .finite b n _ => ofSignedUnits (signedUnits a m + signedUnits b n) (a && b)

def sub (x y : Binary64) : Binary64 := add x (neg y)

def mul : Binary64 → Binary64 → Binary64
  | .nan, _ | _, .nan => .nan
  | .infinite a, .infinite b => .infinite (a != b)
  | .infinite a, .finite b n _ => if n = 0 then .nan else .infinite (a != b)
  | .finite a m _, .infinite b => if m = 0 then .nan else .infinite (a != b)
  | .finite a m _, .finite b n _ => ofUnits (a != b) (m * n) one

/-- The remainder that takes the divisor's sign; absent for a zero divisor. -/
def mod? : Binary64 → Binary64 → Option Binary64
  | .nan, y => if y.isZero then none else some .nan
  | _, .nan => some .nan
  | .infinite _, y => if y.isZero then none else some .nan
  | x@(.finite a m _), .infinite b =>
    if m = 0 then some (.finite b 0 fits_zero) else if a = b then some x else some (.infinite b)
  | .finite a m _, .finite b n _ =>
    if n = 0 then none
    else
      let rest := ofSignedUnits (signedUnits a (m % n)) b
      if m % n = 0 then some (.finite b 0 fits_zero)
      else if a = b then some rest
      else some (add rest (ofUnits b n 1))

end Binary64

end Conformance
