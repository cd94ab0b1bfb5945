import Conformance.Binary64

/-!
# Decimal text of doubles

Reading rounds the exact decimal value once. Writing takes the fewest digits that read back, and
of those the nearest: on each decimal grid only the value's two neighbours can lie in the
interval of numbers that round to it.
-/

namespace Conformance

namespace Binary64

/-- `digits * 10 ^ exponent`, rounded. Exponents far outside the range are settled from the
binary length of the digits, so no huge power is formed. -/
def ofDecimal (negative : Bool) (digits : Nat) (exponent : Int) : Binary64 :=
  if digits = 0 then .finite negative 0 fits_zero
  else if exponent + (digits.log2 / 4 : Nat) > 400 then .infinite negative
  else if exponent + (digits.log2 / 3 : Nat) < -400 then .finite negative 0 fits_zero
  else if 0 ≤ exponent then ofUnits negative (digits * Nat.pow 10 exponent.toNat * one) 1
  else ofUnits negative (digits * one) (Nat.pow 10 (-exponent).toNat)

/-- The numbers that round to a magnitude, in quarters of a unit. The lower gap is halved at a
power of two, and the ends belong to the interval when the mantissa is even. -/
structure Basin where
  low : Nat
  centre : Nat
  high : Nat
  closed : Bool

def basin (magnitude : Nat) : Basin :=
  let step := spacing magnitude
  let below := if magnitude = Nat.pow 2 magnitude.log2 ∧ 1 < step then step else 2 * step
  { low := 4 * magnitude - below
    centre := 4 * magnitude
    high := 4 * magnitude + 2 * step
    closed := magnitude / step % 2 == 0 }

/-- A decimal grid of spacing `numerator / denominator` quarters of a unit. -/
structure Grid where
  numerator : Nat
  denominator : Nat

def grid (exponent : Int) : Grid :=
  { numerator := 4 * one * Nat.pow 10 exponent.toNat
    denominator := Nat.pow 10 (-exponent).toNat }

def Grid.inside (g : Grid) (b : Basin) (point : Nat) : Bool :=
  let value := point * g.numerator
  if b.closed then
    b.low * g.denominator ≤ value && value ≤ b.high * g.denominator
  else
    b.low * g.denominator < value && value < b.high * g.denominator

def Grid.distance (g : Grid) (b : Basin) (point : Nat) : Nat :=
  ((point * g.numerator : Nat) - (b.centre * g.denominator : Nat) : Int).natAbs

/-- The point of the grid that reads back and is nearest, if one reads back; a tie goes to the
even point. -/
def Grid.hit? (g : Grid) (b : Basin) : Option Nat :=
  let below := b.centre * g.denominator / g.numerator
  let above := below + 1
  match g.inside b below, g.inside b above with
  | false, false => none
  | true, false => some below
  | false, true => some above
  | true, true =>
    let near := g.distance b below
    let far := g.distance b above
    if near < far then some below
    else if far < near then some above
    else some (if below % 2 = 0 then below else above)

/-- The power of ten at or below a positive magnitude. -/
def decimalExponent (magnitude : Nat) : Int :=
  let guess : Int := ((magnitude.log2 : Int) - unitBits) * 30103 / 100000
  let reaches (exponent : Int) : Bool :=
    one * Nat.pow 10 exponent.toNat ≤ magnitude * Nat.pow 10 (-exponent).toNat
  if !reaches guess then guess - 1
  else if reaches (guess + 1) then guess + 1
  else guess

/-- Tries grids of one digit, two digits and so on; seventeen always suffice. -/
def shortestFrom (b : Basin) (top : Int) : Nat → Nat → Nat × Int
  | 0, count =>
    let exponent := top - count
    ((grid exponent).hit? b |>.getD 0, exponent)
  | fuel + 1, count =>
    let exponent := top - count
    match (grid exponent).hit? b with
    | some point => (point, exponent)
    | none => shortestFrom b top fuel (count + 1)

/-- The fewest digits that read back, with the exponent of the last one. -/
def shortest (magnitude : Nat) : Nat × Int :=
  shortestFrom (basin magnitude) (decimalExponent magnitude) 16 0

/-- How a double is written: positional notation for exponents from `positionalFrom` up to
`positionalTo`, otherwise a signed exponent of at least two digits. -/
structure Style where
  positionalFrom : Int
  positionalTo : Int
  nan : String
  infinity : String

def style : Style := ⟨-4, 16, "nan", "inf"⟩

/-- Digits with a point after the first `point` of them; a whole number ends in `.0`. -/
def positional (digits : List Char) (point : Int) : List Char :=
  if point ≤ 0 then '0' :: '.' :: (List.replicate (-point).toNat '0' ++ digits)
  else
    let whole := digits.take point.toNat ++ List.replicate (point.toNat - digits.length) '0'
    let rest := digits.drop point.toNat
    whole ++ '.' :: (if rest.isEmpty then ['0'] else rest)

def scientific (digits : List Char) (exponent : Int) : List Char :=
  let mantissa :=
    match digits with
    | [] => ['0']
    | [d] => [d]
    | d :: rest => d :: '.' :: rest
  let power := exponent.natAbs.repr.toList
  let padded := if power.length < 2 then '0' :: power else power
  mantissa ++ 'e' :: (if exponent < 0 then '-' else '+') :: padded

def dropTrailingZeros (digits : List Char) : List Char :=
  (digits.reverse.dropWhile (· == '0')).reverse

def magnitudeText (magnitude : Nat) : List Char :=
  if magnitude = 0 then ['0', '.', '0']
  else
    let (point, last) := shortest magnitude
    let all := point.repr.toList
    let exponent := last + all.length - 1
    let digits := dropTrailingZeros all
    if style.positionalFrom ≤ exponent ∧ exponent < style.positionalTo then
      positional digits (exponent + 1)
    else scientific digits exponent

def text : Binary64 → String
  | .nan => style.nan
  | .infinite negative => (if negative then "-" else "") ++ style.infinity
  | .finite negative magnitude _ =>
    (if negative then "-" else "") ++ String.ofList (magnitudeText magnitude)

end Binary64

end Conformance
