import Conformance.Proofs.Schema.Container
import Conformance.Proofs.Value.Data

/-! # Enumerated values

Strict equality is equality of data of one sort: one kind, or one type if they have no kind. So it
is an equivalence, and an enumeration sees of a value and of its options only what they are
strictly equal to. The sort is asked of a value as a whole. Further down equal parts are of one
kind as well, except that a truth value there equals the number it counts as.
-/

namespace Conformance.Schema

open Value (Adjacent Coerced Counterpart Datum Level NanFree)

/-- One kind, or one type where there is no kind. -/
def SameSort (left right : Value) : Prop :=
  left.kind? = right.kind? ∧ (left.kind? = none → left.typeName = right.typeName)

theorem SameSort.refl (value : Value) : SameSort value value := ⟨rfl, fun _ => rfl⟩

theorem SameSort.symm {left right : Value} (h : SameSort left right) : SameSort right left :=
  ⟨h.1.symm, fun hnone => (h.2 (h.1.trans hnone)).symm⟩

theorem SameSort.trans {a b c : Value} (hab : SameSort a b) (hbc : SameSort b c) :
    SameSort a c :=
  ⟨hab.1.trans hbc.1, fun hnone => (hab.2 hnone).trans (hbc.2 (hab.1.symm.trans hnone))⟩

section Data

variable {left right : Value} (hleft : Datum left) (hright : Datum right)

include hleft hright

theorem kinds_of_equal (h : Value.equal left right = true) :
    left.kind? = right.kind? ∨ Coerced left right :=
  ((hleft.equal_iff_level hright).mp h).1.kinds

theorem strictlyEqual_eq_true_iff :
    strictlyEqual left right = true ↔ SameSort left right ∧ Value.equal left right = true := by
  unfold strictlyEqual SameSort
  cases hkind : left.kind? with
  | some kind =>
      rw [Bool.and_eq_true, beq_iff_eq]
      constructor
      · rintro ⟨hsame, hequal⟩
        exact ⟨⟨hsame.symm, nofun⟩, hequal⟩
      · rintro ⟨⟨hsame, -⟩, hequal⟩
        exact ⟨hsame.symm, hequal⟩
  | none =>
      rw [Bool.and_eq_true, sameType, beq_iff_eq]
      constructor
      · rintro ⟨htype, hequal⟩
        refine ⟨⟨?_, fun _ => htype⟩, hequal⟩
        rcases kinds_of_equal hleft hright hequal with hsame | ⟨hbool, -⟩ | ⟨hnumber, -⟩
        · exact hkind.symm.trans hsame
        · simp [hkind] at hbool
        · simp [hkind] at hnumber
      · rintro ⟨⟨-, htype⟩, hequal⟩
        exact ⟨htype rfl, hequal⟩

theorem strictlyEqual_of_symm (h : strictlyEqual left right = true) :
    strictlyEqual right left = true := by
  obtain ⟨hsort, hequal⟩ := (strictlyEqual_eq_true_iff hleft hright).mp h
  exact (strictlyEqual_eq_true_iff hright hleft).mpr
    ⟨hsort.symm, hleft.equal_symm hright hequal⟩

theorem strictlyEqual_of_trans {other : Value} (hother : Datum other)
    (h : strictlyEqual left right = true) (h' : strictlyEqual right other = true) :
    strictlyEqual left other = true := by
  obtain ⟨hsort, hequal⟩ := (strictlyEqual_eq_true_iff hleft hright).mp h
  obtain ⟨hsort', hequal'⟩ := (strictlyEqual_eq_true_iff hright hother).mp h'
  exact (strictlyEqual_eq_true_iff hleft hother).mpr
    ⟨hsort.trans hsort', hleft.equal_trans hright hother hequal hequal'⟩

end Data

theorem strictlyEqual_self {value : Value} (h : NanFree value) :
    strictlyEqual value value = true :=
  (strictlyEqual_eq_true_iff h.toDatum h.toDatum).mpr ⟨.refl value, h.equal_self⟩

/-! ## Membership -/

theorem validateEnum_of_iterate {enumeration : Value} {options : List Value}
    (h : enumeration.iterate = .ok options) (value : Value) :
    validateEnum value enumeration = .ok (options.any (strictlyEqual value)) := by
  unfold validateEnum
  rw [h]
  rfl

def Covered (options options' : List Value) : Prop :=
  ∀ option ∈ options, ∃ option' ∈ options', strictlyEqual option option' = true

instance (options options' : List Value) : Decidable (Covered options options') :=
  inferInstanceAs (Decidable (∀ option ∈ options, ∃ option' ∈ options', _))

/-- A value that strictly equals an enumerated one is enumerated where the options are covered. -/
theorem any_of_covered {value value' : Value} {options options' : List Value} (hvalue : Datum value)
    (hvalue' : Datum value') (hoptions : ∀ option ∈ options, Datum option)
    (hoptions' : ∀ option ∈ options', Datum option) (hequal : strictlyEqual value' value = true)
    (hcovered : Covered options options') (h : options.any (strictlyEqual value) = true) :
    options'.any (strictlyEqual value') = true := by
  obtain ⟨option, hmem, hfound⟩ := List.any_eq_true.mp h
  obtain ⟨option', hmem', hsame⟩ := hcovered option hmem
  have hoption := hoptions option hmem
  have hoption' := hoptions' option' hmem'
  have hreached := strictlyEqual_of_trans hvalue' hvalue hoption hequal hfound
  exact List.any_eq_true.mpr
    ⟨option', hmem', strictlyEqual_of_trans hvalue' hoption hoption' hreached hsame⟩

/-- Strict equality of data is symmetric and transitive, and reflexive without a NaN. So whether a
value is enumerated does not change when the value is replaced by a strictly equal one and the
options by others that cover them and are covered by them, nor when they are put in another order
or repeated. -/
theorem strictlyEqual_equivalence :
    (∀ left right, Datum left → Datum right →
      strictlyEqual left right = strictlyEqual right left) ∧
    (∀ a b c, Datum a → Datum b → Datum c → strictlyEqual a b = true → strictlyEqual b c = true →
      strictlyEqual a c = true) ∧
    (∀ value, NanFree value → strictlyEqual value value = true) ∧
    (∀ value value' enumeration enumeration' options options',
      enumeration.iterate = .ok options → enumeration'.iterate = .ok options' →
      Datum value → Datum value' → (∀ option ∈ options, Datum option) →
      (∀ option ∈ options', Datum option) → strictlyEqual value value' = true →
      Covered options options' → Covered options' options →
      validateEnum value enumeration = validateEnum value' enumeration') ∧
    ∀ value enumeration enumeration' options options',
      enumeration.iterate = .ok options → enumeration'.iterate = .ok options' →
      (∀ option, option ∈ options ↔ option ∈ options') →
      validateEnum value enumeration = validateEnum value enumeration' := by
  have hsymm : ∀ left right, Datum left → Datum right →
      strictlyEqual left right = strictlyEqual right left := by
    intro left right hleft hright
    rw [Bool.eq_iff_iff]
    exact ⟨strictlyEqual_of_symm hleft hright, strictlyEqual_of_symm hright hleft⟩
  refine ⟨hsymm, fun a b c ha hb hc => strictlyEqual_of_trans ha hb hc,
    fun value => strictlyEqual_self, ?_, ?_⟩
  · intro value value' enumeration enumeration' options options' hiterate hiterate' hvalue hvalue'
      hoptions hoptions' hequal hcovered hcovered'
    have hequal' : strictlyEqual value' value = true := by rwa [hsymm value' value hvalue' hvalue]
    rw [validateEnum_of_iterate hiterate, validateEnum_of_iterate hiterate', Except.ok.injEq,
      Bool.eq_iff_iff]
    exact ⟨any_of_covered hvalue hvalue' hoptions hoptions' hequal' hcovered,
      any_of_covered hvalue' hvalue hoptions' hoptions hequal hcovered'⟩
  · intro value enumeration enumeration' options options' hiterate hiterate' hsame
    rw [validateEnum_of_iterate hiterate, validateEnum_of_iterate hiterate', Except.ok.injEq,
      Bool.eq_iff_iff, List.any_eq_true, List.any_eq_true]
    exact exists_congr fun option => and_congr_left fun _ => hsame option

/-- A record whose keys and values are numbers, a truth value and a text. -/
def reading : Value := .dict [(.int 0, .list [.bool true]), (.str "b", .float .zero)]

/-- The same in another order, with other numbers of the same amounts. -/
def respelledReading : Value := .dict [(.str "b", .int 0), (.float .zero, .list [.int 1])]

theorem nanFree_readings : NanFree reading ∧ NanFree respelledReading := by
  have hint : ∀ n, NanFree (.int n) := fun n => .of_whole rfl nofun rfl
  have hzero : NanFree (.float .zero) := .of_whole rfl nofun rfl
  have htext : NanFree (.str "b") := .of_whole rfl nofun rfl
  have htrue : NanFree (.bool true) := .of_whole rfl nofun rfl
  have hlist : ∀ {item}, NanFree item → NanFree (.list [item]) :=
    fun h => .list nofun (List.forall_mem_singleton.mpr h)
  constructor
  · exact .dict nofun (by decide +kernel) (by simp [hint, hzero, htext, hlist htrue])
  · exact .dict nofun (by decide +kernel) (by simp [hint, hzero, htext, hlist (hint 1)])

theorem strictlyEqual_readings : strictlyEqual reading respelledReading = true := by
  decide +kernel

theorem strictlyEqual_equivalence_readings :
    NanFree reading ∧ NanFree respelledReading ∧
      strictlyEqual reading respelledReading = true ∧
      strictlyEqual respelledReading reading = true ∧ strictlyEqual reading reading = true ∧
      Covered [reading, .null] [.null, respelledReading, .null] ∧
      Covered [.null, respelledReading, .null] [reading, .null] ∧
      validateEnum reading (.list [reading, .null]) =
        validateEnum respelledReading (.tuple [.null, respelledReading, .null]) ∧
      validateEnum reading (.list [reading, .null]) =
        validateEnum reading (.tuple [.null, reading, reading]) := by
  obtain ⟨hsymm, htrans, hself, hcovered, hsame⟩ := strictlyEqual_equivalence
  obtain ⟨hreading, hrespelled⟩ := nanFree_readings
  have hdatum := hreading.toDatum
  have hdatum' := hrespelled.toDatum
  have hnull : Datum .null := .of_whole rfl trivial rfl
  have hequal := strictlyEqual_readings
  have hback : strictlyEqual respelledReading reading = true := by
    rwa [hsymm _ _ hdatum' hdatum]
  have hcover : Covered [reading, .null] [.null, respelledReading, .null] := by decide +kernel
  have hcover' : Covered [.null, respelledReading, .null] [reading, .null] := by decide +kernel
  refine ⟨hreading, hrespelled, hequal, hback,
    htrans _ _ _ hdatum hdatum' hdatum hequal hback, hcover, hcover', ?_, ?_⟩
  · exact hcovered _ _ (.list [reading, .null]) (.tuple [.null, respelledReading, .null]) _ _ rfl
      rfl hdatum hdatum' (by simp [hdatum, hnull]) (by simp [hdatum', hnull]) hequal hcover hcover'
  · exact hsame _ (.list [reading, .null]) (.tuple [.null, reading, reading]) _ _ rfl rfl
      (by simp [or_comm])

end Conformance.Schema
