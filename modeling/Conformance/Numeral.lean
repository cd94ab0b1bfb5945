import Conformance.Binary64.Decimal
import Conformance.Fault
import Conformance.Text.Blank
import Conformance.Text.Case
import Conformance.Text.Digit

/-!
# Numerals

Texts that write integers in a base, or decimal numbers. Blanks around a numeral are ignored, an
underscore may separate two digits, and the digits of every script count.
-/

namespace Conformance

namespace Numeral

/-- The digits of other scripts as basic ones, the separators of other scripts as blanks. -/
def basic (text : List Char) : List Char :=
  text.map fun c =>
    match Text.digitValue? c.toNat with
    | some d => Char.ofNat (0x30 + d)
    | none => if Text.isBlank c then ' ' else c

def digit? (base : Nat) (c : Char) : Option Nat :=
  let value? : Option Nat :=
    if '0' ≤ c ∧ c ≤ '9' then some (c.toNat - 0x30)
    else if 'a' ≤ c ∧ c ≤ 'z' then some (c.toNat - 0x57)
    else if 'A' ≤ c ∧ c ≤ 'Z' then some (c.toNat - 0x37)
    else none
  value?.filter (· < base)

/-- Drops underscores that stand between two digits; absent when one stands elsewhere. -/
def joinGroups : List Char → Option (List Char)
  | [] => none
  | '_' :: _ => none
  | [c] => some [c]
  | c :: '_' :: rest => (joinGroups rest).map (c :: ·)
  | c :: rest => (joinGroups rest).map (c :: ·)

def ofDigits? (base : Nat) (digits : List Char) : Option Nat :=
  digits.foldlM (fun total c => (digit? base c).map (total * base + ·)) 0

def takeSign : List Char → Bool × List Char
  | '-' :: rest => (true, rest)
  | '+' :: rest => (false, rest)
  | text => (false, text)

/-- The letter that may mark a base behind a zero. -/
def baseMark? : Nat → Option Char
  | 2 => some 'b'
  | 8 => some 'o'
  | 16 => some 'x'
  | _ => none

def dropBaseMark (base : Nat) (text : List Char) : List Char :=
  match text, baseMark? base with
  | '0' :: c :: rest, some mark =>
    if c = mark ∨ c.toNat + 32 = mark.toNat then
      match rest with
      | '_' :: rest => rest
      | rest => rest
    else text
  | _, _ => text

def signed (negative : Bool) (n : Nat) : Int := if negative then -(n : Int) else n

/-- The integer that a text writes in a base. Only decimal numerals are limited in length. -/
def readInteger (base : Nat) (text : List Char) : Except Fault Int :=
  let invalid : Except Fault Int :=
    .error (.value (.invalidInteger base (Text.quoted (String.ofList text))))
  let (negative, body) := takeSign (Text.trim (basic text))
  match joinGroups (dropBaseMark base body) with
  | none => invalid
  | some digits =>
    if base = 10 ∧ digitLimit < digits.length ∧ digits.all (fun c => (digit? 10 c).isSome) then
      .error (.value (.tooManyDigits digits.length))
    else
      match ofDigits? base digits with
      | some n => .ok (signed negative n)
      | none => invalid

/-- The parts of a decimal numeral: its digits as one number and the power of ten they count. -/
structure Scientific where
  digits : Nat
  exponent : Int

def takeDecimals (text : List Char) : List Char × List Char :=
  (text.takeWhile (·.isDigit), text.dropWhile (·.isDigit))

/-- The exponent behind an `e`, zero when there is none. -/
def readExponent? : List Char → Option Int
  | [] => some 0
  | c :: rest =>
    if c = 'e' ∨ c = 'E' then
      let (negative, digits) := takeSign rest
      if digits.isEmpty || !digits.all (·.isDigit) then none
      else (ofDigits? 10 digits).map (signed negative)
    else none

def readScientific? (text : List Char) : Option Scientific := do
  let (whole, rest) := takeDecimals text
  let (fraction, rest) :=
    match rest with
    | '.' :: rest => takeDecimals rest
    | _ => ([], rest)
  if whole.isEmpty && fraction.isEmpty then none
  else
    let exponent ← readExponent? rest
    let digits ← ofDigits? 10 (whole ++ fraction)
    return ⟨digits, exponent - fraction.length⟩

/-- The double that a decimal numeral or a name of a special value writes. -/
def readDouble? (text : List Char) : Option Binary64 :=
  let (negative, body) := takeSign (Text.trim (basic text))
  match String.ofList (body.map fun c => Char.ofNat (Text.lowerBasic c.toNat)) with
  | "inf" | "infinity" => some (.infinite negative)
  | "nan" => some .nan
  | _ => do
    let joined ← joinGroups body
    let s ← readScientific? joined
    return .ofDecimal negative s.digits s.exponent

def readDouble (text : List Char) : Except Fault Binary64 :=
  match readDouble? text with
  | some x => .ok x
  | none => .error (.value (.invalidDecimal (Text.quoted (String.ofList text))))

end Numeral

end Conformance
