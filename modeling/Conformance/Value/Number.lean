import Conformance.Value

/-!
# Numbers

Integers and doubles are compared exactly: each number is a mark on the line of integers that
counts units of `2 ^ -1074`, with two ends. A NaN has no mark.
-/

namespace Conformance

namespace Value

namespace Number

inductive Mark
  | below
  | units (n : Int)
  | above
  deriving DecidableEq

def mark? : Number → Option Mark
  | .int n => some (.units (n * Binary64.one))
  | .float .nan => none
  | .float (.infinite negative) => some (if negative then .below else .above)
  | .float (.finite negative magnitude _) => some (.units (Binary64.signedUnits negative magnitude))

def Mark.less : Mark → Mark → Bool
  | .below, .below => false
  | .below, _ => true
  | .units a, .units b => a < b
  | .units _, .above => true
  | _, _ => false

def equal (a b : Number) : Bool :=
  match a.mark?, b.mark? with
  | some x, some y => x == y
  | _, _ => false

def less (a b : Number) : Bool :=
  match a.mark?, b.mark? with
  | some x, some y => x.less y
  | _, _ => false

theorem equal_comm (a b : Number) : a.equal b = b.equal a := by
  unfold equal
  cases a.mark? <;> cases b.mark? <;> simp [Bool.beq_comm]

/-- The number as a double, absent when an integer lies beyond them. -/
def toDouble? : Number → Option Binary64
  | .int n => Binary64.ofInt? n
  | .float x => some x

def isIntegral : Number → Bool
  | .int _ => true
  | .float x => x.isInteger

end Number

end Value

end Conformance
