import Conformance.Proofs.Schema.Totality
import Conformance.Proofs.Value.Extended

/-! # What constraints on numbers mean

Read as extended reals, the bounds of a number are kept exactly: a number is admitted if it lies
between them, and if it is whole where that is asked. A NaN lies nowhere, so no bound keeps it out.
A literal admits each number that equals it, unless it is infinite: the distance of an infinity
from itself is a NaN, which is within no tolerance.
-/

namespace Conformance.Schema

/-- An absent bound, or one at an extended real. -/
def IsLimit (bound : Value) : Prop := bound.isNull = true ∨ ∃ x, bound.extended? = some x

/-- Between two bounds. An absent bound is kept by everything. -/
def Within (min max : Value) (x : EReal) : Prop :=
  (∀ low, min.extended? = some low → low ≤ x) ∧ ∀ high, max.extended? = some high → x ≤ high

def IsWhole (value : Value) : Prop := ∃ n : ℤ, value.extended? = some ((n : ℝ) : EReal)

section Bounds

variable {subject bound value min max isInteger epsilon : Value} {a : Value.Number}

theorem isBound_of_isLimit (h : IsLimit bound) : isBound bound = true := by
  rcases h with hnull | ⟨x, hx⟩
  · simp [isBound, hnull]
  · obtain ⟨b, hb, -⟩ := Value.exists_number_of_extended hx
    simp [isBound, hb]

theorem extended?_of_null (h : bound.isNull = true) : bound.extended? = none := by
  cases bound <;> first | rfl | cases h

theorem outside_of_null (comparison : Value.Comparison) (h : bound.isNull = true) :
    outside comparison subject bound = .ok false := by
  rw [outside, if_pos h]

theorem outside_below_eq_false_iff (hsubject : subject.number? = some a)
    (hbound : IsLimit bound) :
    outside .below subject bound = .ok false ↔
      ∀ x low, subject.extended? = some x → bound.extended? = some low → low ≤ x := by
  rcases hbound with hnull | ⟨y, hy⟩
  · simp [outside_of_null .below hnull, extended?_of_null hnull]
  · obtain ⟨b, hb, -⟩ := Value.exists_number_of_extended hy
    rw [outside_of_number hsubject hb, Except.ok.injEq, Value.extended?_of_number hsubject,
      Value.extended?_of_number hb]
    exact Value.Number.less_eq_false_iff

theorem outside_above_eq_false_iff (hsubject : subject.number? = some a)
    (hbound : IsLimit bound) :
    outside .above subject bound = .ok false ↔
      ∀ x high, subject.extended? = some x → bound.extended? = some high → x ≤ high := by
  rcases hbound with hnull | ⟨y, hy⟩
  · simp [outside_of_null .above hnull, extended?_of_null hnull]
  · obtain ⟨b, hb, -⟩ := Value.exists_number_of_extended hy
    rw [outside_of_number hsubject hb, Except.ok.injEq, Value.extended?_of_number hsubject,
      Value.extended?_of_number hb]
    exact Value.Number.less_eq_false_iff.trans
      ⟨fun h x high hx hhigh => h high x hhigh hx, fun h high x hhigh hx => h x high hx hhigh⟩

/-- No bound is broken by a number between both, nor by a NaN. -/
theorem outside_eq_false_iff_within (hsubject : subject.number? = some a) (hmin : IsLimit min)
    (hmax : IsLimit max) :
    outside .below subject min = .ok false ∧ outside .above subject max = .ok false ↔
      ∀ x, subject.extended? = some x → Within min max x := by
  rw [outside_below_eq_false_iff hsubject hmin, outside_above_eq_false_iff hsubject hmax]
  constructor
  · rintro ⟨hbelow, habove⟩ x hx
    exact ⟨fun low => hbelow x low hx, fun high => habove x high hx⟩
  · intro h
    exact ⟨fun x low hx => (h x hx).1 low, fun x high hx => (h x hx).2 high⟩

theorem isIntegral_eq_true_iff (hsubject : subject.number? = some a) :
    isIntegral subject = .ok true ↔ IsWhole subject := by
  rw [isIntegral_of_number hsubject, Except.ok.injEq, Value.Number.isIntegral_iff, IsWhole,
    Value.extended?_of_number hsubject]

theorem admitsNumber_iff_within (hsubject : subject.number? = some a) (hmin : IsLimit min)
    (hmax : IsLimit max) :
    admitsNumber subject (.numberSchema value min max isInteger epsilon) = .ok true ↔
      (isInteger.truthy = true → IsWhole subject) ∧
        ∀ x, subject.extended? = some x → Within min max x := by
  rw [admitsNumber_eq_ok_true_iff, isIntegral_eq_true_iff hsubject,
    outside_eq_false_iff_within hsubject hmin hmax]

/-- Without an expected value, a number is always answered for. It is accepted exactly if it is
whole where that is asked, and lies between the bounds as an extended real; a NaN, which is no
extended real, is kept out by no bound. -/
theorem validateNumber_bounded (calls : Interpretation) (hsubject : subject.number? = some a)
    (hmin : IsLimit min) (hmax : IsLimit max) :
    ∃ accepted,
      validateNumber calls subject (.numberSchema .null min max isInteger epsilon) =
        .pure accepted ∧
      (accepted = true ↔
        (isInteger.truthy = true → IsWhole subject) ∧
          ∀ x, subject.extended? = some x → Within min max x) := by
  obtain ⟨accepted, haccepted⟩ :
      ∃ accepted, admitsNumber subject (.numberSchema .null min max isInteger epsilon) =
        .ok accepted :=
    admitsNumber_answers hsubject (isBound_of_isLimit hmin) (isBound_of_isLimit hmax)
  have hiff : admitsNumber subject (.numberSchema .null min max isInteger epsilon) = .ok true ↔ _ :=
    admitsNumber_iff_within hsubject hmin hmax
  refine ⟨accepted, ?_, ?_⟩
  · rw [validateNumber_numberSchema, haccepted]
    exact Outcome.andThen_pure_true _
  · rw [← hiff, haccepted, Except.ok.injEq]

/-- A NaN keeps both bounds, though it is not between them. -/
theorem validateNumber_bounded_nan :
    (Value.float .nan).number? = some (.float .nan) ∧ IsLimit (.int 0) ∧
      IsLimit (.float (.infinite false)) ∧
      validateNumber standard (.float .nan)
          (.numberSchema .null (.int 0) (.float (.infinite false)) (.bool false) .null) =
        .pure true := by
  have hlow : IsLimit (.int 0) := .inr ⟨_, rfl⟩
  have hhigh : IsLimit (.float (.infinite false)) := .inr ⟨_, rfl⟩
  obtain ⟨accepted, haccepted, hiff⟩ := @validateNumber_bounded (.float .nan) (.int 0)
    (.float (.infinite false)) (.bool false) .null _ standard rfl hlow hhigh
  have hnowhere : (Value.float .nan).extended? = none := rfl
  refine ⟨rfl, hlow, hhigh, ?_⟩
  rw [haccepted, hiff.2 ⟨by simp [Value.truthy], by simp [hnowhere]⟩]

end Bounds

/-! ## Literals -/

section Literals

variable {subject literal value min max isInteger epsilon : Value} {a : Value.Number}
  {x ε : EReal}

/-- What equals a double is as far from it as the double from itself. -/
theorem minus_of_equal {y : Binary64} (hsubject : subject.number? = some a)
    (hequal : a.equal (.float y) = true) :
    ∃ difference, subject.minus y = .ok difference ∧ difference.abs = (y.sub y).abs := by
  obtain ⟨d, hd, hsame⟩ := Value.Number.toDouble?_of_equal_float hequal
  refine ⟨d.sub y, ?_, hsame y⟩
  simp [Value.minus, hsubject, Value.Number.toDouble, hd, bind, Except.bind, pure, Except.pure]

/-- Of the numbers only zero is at no distance from zero, so every tolerance admits it. -/
theorem zero_below (hepsilon : epsilon.extended? = some ε) (hpos : 0 < ε) :
    Value.compare .below (.float .zero) epsilon = .ok true := by
  obtain ⟨e, he, hextended⟩ := Value.exists_number_of_extended hepsilon
  have hzero : Value.Number.extended? (.float .zero) = some 0 := by
    simp [Value.Number.extended?, Binary64.zero, Binary64.signedUnits]
  rw [Value.compare_of_numbers .below rfl he, Except.ok.injEq]
  exact (Value.Number.less_iff_lt hzero hextended).2 hpos

theorem nan_not_below (hepsilon : epsilon.extended? = some ε) :
    Value.compare .below (.float .nan) epsilon = .ok false := by
  obtain ⟨e, he, -⟩ := Value.exists_number_of_extended hepsilon
  have hless : Value.Number.less (.float .nan) e = false :=
    Value.Number.less_eq_false_iff.2 (by simp [Value.Number.extended?])
  rw [Value.compare_of_numbers .below rfl he, Except.ok.injEq]
  exact hless

/-- A double is matched by what equals it, whether it is compared exactly or within the tolerance,
unless it is infinite. -/
theorem matchesLiteral_double {y : Binary64} (hsubject : subject.number? = some a)
    (hequal : a.equal (.float y) = true) (hepsilon : epsilon.extended? = some ε) (hpos : 0 < ε) :
    matchesLiteral subject (.float y) (.numberSchema value min max isInteger epsilon) =
      .ok (match y with
        | .infinite _ => false
        | _ => true) := by
  obtain ⟨difference, hminus, hdistance⟩ := minus_of_equal hsubject hequal
  have hexact : Value.equal subject (.float y) = true := by
    rwa [Value.equal_of_numbers hsubject rfl]
  rw [matchesLiteral_numberSchema]
  cases y with
  | nan =>
      obtain ⟨mark, -, hnan⟩ := Value.Number.equal_eq_true_iff.1 hequal
      cases hnan
  | infinite negative =>
      rw [Binary64.abs_sub_self_of_infinite] at hdistance
      simp [Binary64.isInteger, hminus, Except.bind, hdistance, nan_not_below hepsilon]
  | finite negative magnitude fits =>
      rw [Binary64.abs_sub_self_of_finite] at hdistance
      dsimp only
      split
      · rw [hexact]
      · rw [hminus, Except.bind, hdistance, zero_below hepsilon hpos]

/-- A number that is no double counts as an integer. -/
theorem integer_of_kind {b : Value.Number} (hkind : literal.kind? = some .number)
    (hnumber : literal.number? = some b) :
    (∃ y, literal = .float y) ∨ ∃ n, b = .int n := by
  cases literal <;> simp only [Value.kind?, reduceCtorEq] at hkind
  case int n => exact .inr ⟨n, (Option.some.inj hnumber).symm⟩
  case float y => exact .inl ⟨y, rfl⟩
  case member m =>
    cases hbase : m.base <;> cases hvalue : m.value <;> simp [hbase, hvalue] at hkind
    simp only [Value.number?, hbase, hvalue, Option.some.injEq] at hnumber
    exact .inr ⟨_, hnumber.symm⟩
  all_goals cases hkind

/-- A literal is matched by what equals it, unless it is infinite. -/
theorem matchesLiteral_of_equal (hsubject : subject.number? = some a)
    (hliteral : literal.kind? = some .number) (hx : literal.extended? = some x)
    (hequal : Value.equal subject literal = true) (hepsilon : epsilon.extended? = some ε)
    (hpos : 0 < ε) :
    ∃ matched,
      matchesLiteral subject literal (.numberSchema value min max isInteger epsilon) =
        .ok matched ∧
      (matched = true ↔ ¬ (x = ⊥ ∨ x = ⊤)) := by
  obtain ⟨b, hb, hextended⟩ := Value.exists_number_of_extended hx
  rw [Value.Number.ends_iff_infinite hextended]
  rcases integer_of_kind hliteral hb with ⟨y, rfl⟩ | ⟨n, rfl⟩
  · cases hb
    rw [Value.equal_of_numbers hsubject rfl] at hequal
    refine ⟨_, matchesLiteral_double hsubject hequal hepsilon hpos, ?_⟩
    cases y <;> simp
  · refine ⟨true, ?_, by simp⟩
    rw [matchesLiteral_numberSchema]
    split
    · cases hb
    · rw [hequal]

theorem isLimit_null : IsLimit .null := .inl rfl

/-- A literal accepts what equals it with any tolerance, and also between bounds that the literal
keeps, exactly if it is no infinity. -/
theorem validateNumber_of_equal (calls : Interpretation) (hsubject : subject.number? = some a)
    (hliteral : literal.kind? = some .number) (hx : literal.extended? = some x)
    (hequal : Value.equal subject literal = true) (hepsilon : epsilon.extended? = some ε)
    (hpos : 0 < ε) (hmin : IsLimit min) (hmax : IsLimit max) (hwithin : Within min max x) :
    ∃ accepted,
      validateNumber calls subject (.numberSchema literal min max (.bool false) epsilon) =
        .pure accepted ∧
      (accepted = true ↔ ¬ (x = ⊥ ∨ x = ⊤)) := by
  obtain ⟨b, hb, hextended⟩ := Value.exists_number_of_extended hx
  have hsame : subject.extended? = some x := by
    rw [Value.extended?_of_number hsubject, ← hextended]
    exact Value.Number.extended?_of_equal (Value.equal_of_numbers hsubject hb ▸ hequal)
  have hadmitted : admitsNumber subject (.numberSchema literal min max (.bool false) epsilon) =
      .ok true := by
    refine (admitsNumber_iff_within hsubject hmin hmax).2 ⟨?_, fun y hy => ?_⟩
    · simp [Value.truthy]
    · cases hsame.symm.trans hy
      exact hwithin
  obtain ⟨accepted, hmatched, hiff⟩ :
      ∃ matched,
        matchesLiteral subject literal (.numberSchema literal min max (.bool false) epsilon) =
          .ok matched ∧
        (matched = true ↔ ¬ (x = ⊥ ∨ x = ⊤)) :=
    matchesLiteral_of_equal hsubject hliteral hx hequal hepsilon hpos
  refine ⟨accepted, ?_, hiff⟩
  rw [validateNumber_numberSchema, hadmitted, isNull_of_number hb, hliteral, hmatched]
  cases accepted <;> rfl

/-- An infinite literal refuses itself. -/
theorem validateNumber_of_equal_infinite :
    (Value.float (.infinite false)).extended? = some ⊤ ∧
      Value.equal (.float (.infinite false)) (.float (.infinite false)) = true ∧
      (0 : EReal) < ((1 : ℤ) : ℝ) ∧
      validateNumber standard (.float (.infinite false))
          (.numberSchema (.float (.infinite false)) .null .null (.bool false) (.int 1)) =
        .pure false := by
  have hequal : Value.equal (.float (.infinite false)) (.float (.infinite false)) = true := by
    decide
  have hpos : (0 : EReal) < ((1 : ℤ) : ℝ) := by norm_num
  obtain ⟨accepted, haccepted, hiff⟩ := @validateNumber_of_equal (.float (.infinite false))
    (.float (.infinite false)) .null .null (.int 1) _ ⊤ ((1 : ℤ) : ℝ) standard rfl rfl rfl hequal
    rfl hpos isLimit_null isLimit_null ⟨nofun, nofun⟩
  refine ⟨rfl, hequal, hpos, ?_⟩
  have hrefused : accepted = false := by simpa using hiff
  rw [haccepted, hrefused]

end Literals

end Conformance.Schema
