/-!
# Hexadecimal digits
-/

namespace Conformance.Text

def hexDigit (n : Nat) : Char :=
  if n < 10 then Char.ofNat (0x30 + n) else Char.ofNat (0x57 + n)

/-- The last `width` hexadecimal digits of a number. -/
def hexPadded : Nat → Nat → List Char
  | 0, _ => []
  | width + 1, n => hexPadded width (n / 16) ++ [hexDigit (n % 16)]

def hexValue? (c : Char) : Option Nat :=
  if '0' ≤ c ∧ c ≤ '9' then some (c.toNat - 0x30)
  else if 'a' ≤ c ∧ c ≤ 'f' then some (c.toNat - 0x57)
  else if 'A' ≤ c ∧ c ≤ 'F' then some (c.toNat - 0x37)
  else none

/-- A written digit is read back. -/
theorem hexValue?_hexDigit {n : Nat} (h : n < 16) : hexValue? (hexDigit n) = some n := by
  have all : ∀ m ∈ List.range 16, hexValue? (hexDigit m) = some m := by decide
  exact all n (List.mem_range.mpr h)

/-- The number written by hexadecimal digits, absent when some character is none. -/
def hexNumber? (digits : List Char) : Option Nat :=
  digits.foldlM (fun total c => (hexValue? c).map (total * 16 + ·)) 0

/-- A written number is read back when the digits suffice for it. -/
theorem hexNumber?_hexPadded {width n : Nat} (h : n < Nat.pow 16 width) :
    hexNumber? (hexPadded width n) = some n := by
  unfold hexNumber?
  induction width generalizing n with
  | zero =>
    have hzero : n = 0 := Nat.lt_one_iff.mp h
    subst hzero
    rfl
  | succ width ih =>
    have hquotient : n / 16 < Nat.pow 16 width := Nat.div_lt_of_lt_mul (Nat.mul_comm _ _ ▸ h)
    rw [hexPadded, List.foldlM_append, ih hquotient]
    simp [hexValue?_hexDigit (Nat.mod_lt n (by decide)), Nat.div_add_mod']

end Conformance.Text
