import Conformance.Binary64.Decimal

/-!
# Doubles with a given number of places

The exact value is rounded once on the decimal grid that the places state; a tie goes to the even
neighbour.
-/

namespace Conformance

namespace Binary64

/-- The multiple of `10 ^ exponent` nearest to a magnitude, as a count. -/
def roundedOn (magnitude : Nat) (exponent : Int) : Nat :=
  let step := one * Nat.pow 10 exponent.toNat
  let total := magnitude * Nat.pow 10 (-exponent).toNat
  let below := total / step
  let rest := total % step
  if 2 * rest < step then below
  else if step < 2 * rest then below + 1
  else below + below % 2

/-- Digits of a count, at least `least` of them. -/
def digitsOf (least count : Nat) : List Char :=
  let digits := count.repr.toList
  List.replicate (least - digits.length) '0' ++ digits

/-- A point before the last `places` digits; without places only if it is asked for. -/
def pointed (point : Bool) (places : Nat) (digits : List Char) : List Char :=
  let whole := digits.length - places
  digits.take whole ++ (if places = 0 && !point then [] else ['.']) ++ digits.drop whole

def fixedText (point : Bool) (places magnitude : Nat) : List Char :=
  pointed point places (digitsOf (places + 1) (roundedOn magnitude (-places)))

/-- The digits with a point behind the first one, and the power of ten they are times. -/
def leading (places magnitude : Nat) : List Char × Int :=
  if magnitude = 0 then (List.replicate (places + 1) '0', 0)
  else
    let exponent := decimalExponent magnitude
    let digits := (roundedOn magnitude (exponent - places)).repr.toList
    if digits.length = places + 1 then (digits, exponent)
    else (digits.dropLast, exponent + 1)

def powerText (exponent : Int) : List Char :=
  (if exponent < 0 then '-' else '+') :: digitsOf 2 exponent.natAbs

/-- One digit before the point and the power of ten behind the places. -/
def scientificText (point : Bool) (places magnitude : Nat) : List Char :=
  let (digits, exponent) := leading places magnitude
  pointed point places digits ++ 'e' :: powerText exponent

/-- Without the zeros at the end of the places, and without a point that has nothing behind it. -/
def trimPlaces (text : List Char) : List Char :=
  if text.contains '.' then
    let kept := (text.reverse.dropWhile (· == '0'))
    (if kept.head? = some '.' then kept.drop 1 else kept).reverse
  else text

/-- The notation of the two that is shorter, with a number of significant digits; zeros at the end
are kept on demand. -/
def generalText (keepZeros : Bool) (significant magnitude : Nat) : List Char :=
  let significant := max significant 1
  let (digits, exponent) := leading (significant - 1) magnitude
  let trim (text : List Char) := if keepZeros then text else trimPlaces text
  if -4 ≤ exponent ∧ exponent < significant then
    let places := ((significant : Int) - 1 - exponent).toNat
    trim (fixedText keepZeros places magnitude)
  else trim (pointed keepZeros (significant - 1) digits) ++ 'e' :: powerText exponent

end Binary64

end Conformance
