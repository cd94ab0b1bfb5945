import Conformance.Schema.Contract

/-! # What the contract says

A schema satisfies the contract when exactly one of its four aggregation fields is set, and the
constraints of a text or a number stand only beside a scalar of that kind and can be applied to it.
The order in which the contract is read decides only which violation is reported.
-/

namespace Conformance.Schema

/-- The field of a structured schema that an aggregation is set by. -/
def fieldOf (scalar array object enumeration : Value) : Aggregation → Value
  | .scalar => scalar
  | .array => array
  | .object => object
  | .enumeration => enumeration

theorem present_eq_singleton {scalar array object enumeration : Value} {kind : Aggregation} :
    present scalar array object enumeration = [kind] ↔
      ∀ other, (fieldOf scalar array object enumeration other).isNull = false ↔ other = kind := by
  constructor
  · intro h other
    cases hs : scalar.isNull <;> cases ha : array.isNull <;> cases ho : object.isNull <;>
      cases he : enumeration.isNull <;> simp [present, hs, ha, ho, he] at h
    all_goals
      subst h
      cases other <;> simp [fieldOf, hs, ha, ho, he]
  · intro h
    have hs := h .scalar
    have ha := h .array
    have ho := h .object
    have he := h .enumeration
    cases kind <;> simp_all [present, fieldOf]

/-- The constraints of a scalar fit its kind and can be applied to values of that kind. -/
def ScalarContract (scalar string number : Value) : Prop :=
  ∃ kind, tag? scalar = some kind ∧
    (string.isNull = false → kind = .string ∧ stringConstraint string = .ok ()) ∧
    (number.isNull = false → kind = .number ∧ numberConstraint number = .ok ())

theorem scalarContract_eq_ok_iff {scalar string number : Value} :
    scalarContract scalar string number = .ok () ↔ ScalarContract scalar string number := by
  unfold scalarContract ScalarContract
  cases htag : tag? scalar with
  | none => simp [violated]
  | some kind =>
      cases hs : string.isNull <;> cases hn : number.isNull <;> cases kind <;>
        simp [violated, bind, Except.bind, pure, Except.pure]
      cases numberConstraint number <;> simp

/-- What an aggregation allows of the constraints beside it. -/
def Constrained (scalar string number : Value) : Aggregation → Prop
  | .scalar => ScalarContract scalar string number
  | _ => string.isNull = true ∧ number.isNull = true

theorem aggregation_eq_ok_iff
    {scalar array object enumeration string number optional nullable : Value}
    {kind : Aggregation} :
    aggregation (.complexSchema scalar array object enumeration string number optional nullable)
        = .ok kind ↔
      present scalar array object enumeration = [kind] ∧
        Constrained scalar string number kind := by
  simp only [aggregation]
  split
  · next h =>
      cases hc : scalarContract scalar string number with
      | error fault =>
          have hnot : ¬ ScalarContract scalar string number := by
            rw [← scalarContract_eq_ok_iff, hc]
            simp
          constructor
          · intro hok
            cases hok
          · rintro ⟨hpresent, hconstrained⟩
            cases h.symm.trans hpresent
            exact absurd hconstrained hnot
      | ok =>
          have hcontract := scalarContract_eq_ok_iff.mp hc
          cases kind <;> simp [bind, Except.bind, pure, Except.pure, h, Constrained, hcontract]
  · next single hsingle h =>
      have hconstrained :
          Constrained scalar string number single ↔ (string.isNull && number.isNull) = true := by
        cases single <;> simp_all [Constrained]
      cases hfree : string.isNull && number.isNull with
      | true =>
          rw [hfree] at hconstrained
          simp only [if_true, Except.ok.injEq, h, List.cons.injEq, and_true]
          exact ⟨fun heq => ⟨heq, heq ▸ hconstrained.mpr rfl⟩, fun both => both.1⟩
      | false =>
          rw [hfree] at hconstrained
          simp only [Bool.false_eq_true, if_false, violated, reduceCtorEq, false_iff, h]
          rintro ⟨heq, hkind⟩
          cases heq
          exact Bool.false_ne_true (hconstrained.mp hkind)
  · next found hne hone =>
      constructor
      · intro hok
        simp [violated] at hok
      · rintro ⟨hpresent, -⟩
        exact absurd hpresent (by simpa using hone kind)

/-- The contract sees of a field only whether it is set, and of a constraint whether it can be
applied. -/
theorem aggregation_of_fields
    {scalar array array' object object' enumeration enumeration' string string' number number' :
      Value} {optional optional' nullable nullable' : Value} {kind : Aggregation}
    (harray : array'.isNull = array.isNull) (hobject : object'.isNull = object.isNull)
    (henum : enumeration'.isNull = enumeration.isNull) (hstring : string'.isNull = string.isNull)
    (happlied : stringConstraint string = .ok () → stringConstraint string' = .ok ())
    (hnumber : number'.isNull = number.isNull)
    (happlied' : numberConstraint number = .ok () → numberConstraint number' = .ok ())
    (h : aggregation
      (.complexSchema scalar array object enumeration string number optional nullable) = .ok kind) :
    aggregation
        (.complexSchema scalar array' object' enumeration' string' number' optional' nullable') =
      .ok kind := by
  obtain ⟨hpresent, hconstrained⟩ := aggregation_eq_ok_iff.mp h
  refine aggregation_eq_ok_iff.mpr ⟨?_, ?_⟩
  · rw [← hpresent]
    simp only [present, harray, hobject, henum]
  · cases kind with
    | scalar =>
        obtain ⟨tag, htag, hfits, hfits'⟩ := hconstrained
        refine ⟨tag, htag, fun hset => ?_, fun hset => ?_⟩
        · exact (hfits (hstring ▸ hset)).imp_right happlied
        · exact (hfits' (hnumber ▸ hset)).imp_right happlied'
    | array => exact ⟨hstring.trans hconstrained.1, hnumber.trans hconstrained.2⟩
    | object => exact ⟨hstring.trans hconstrained.1, hnumber.trans hconstrained.2⟩
    | enumeration => exact ⟨hstring.trans hconstrained.1, hnumber.trans hconstrained.2⟩

theorem complex_of_aggregation_eq_ok {schema : Value} {kind : Aggregation}
    (h : aggregation schema = .ok kind) :
    ∃ scalar array object enumeration string number optional nullable,
      schema =
        .complexSchema scalar array object enumeration string number optional nullable := by
  cases schema
  case complexSchema => exact ⟨_, _, _, _, _, _, _, _, rfl⟩
  all_goals simp [aggregation, violated] at h

end Conformance.Schema
