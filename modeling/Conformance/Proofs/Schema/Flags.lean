import Conformance.Proofs.Schema.Acceptance
import Conformance.Proofs.Schema.Reach

/-! # What flags decide

A flag at a position of a schema is looked at only where nothing stands for a value there:
`nullable` where it is null, `optional` where a member is absent. Everywhere else validation runs
the same whichever way the flag is set. A member bound to the absent value is as good as none.

A flag is also written when a schema is, so two settings are compared of which both or neither can
be written, as true and false can.
-/

namespace Conformance.Schema

open Outcome (SameRun)
open Value (Step Keyed)

def modifyItem (alter : Value → Value) : Value → Value
  | .arraySchema itemType length minLength maxLength matcher =>
    .arraySchema (alter itemType) length minLength maxLength matcher
  | array => array

def modifyMembers (alter : Value → Value) (place : Nat) : Value → Value
  | .dict known => .dict (known.modify place fun d => (d.1, alter d.2))
  | .orderedDict known => .orderedDict (known.modify place fun d => (d.1, alter d.2))
  | members => members

def modifyMember (alter : Value → Value) (place : Nat) : Value → Value
  | .objectSchema members allowExtraMembers matcher =>
    .objectSchema (modifyMembers alter place members) allowExtraMembers matcher
  | object => object

def modifyAt (alter : Value → Value) : List Place → Value → Value
  | [], schema => alter schema
  | .item :: places,
      .complexSchema scalar array object enumeration string number optional nullable =>
    .complexSchema scalar (modifyItem (modifyAt alter places) array) object enumeration string
      number optional nullable
  | .member place :: places,
      .complexSchema scalar array object enumeration string number optional nullable =>
    .complexSchema scalar array (modifyMember (modifyAt alter places) place object) enumeration
      string number optional nullable
  | _ :: _, schema => schema

section Modify

variable (alter : Value → Value)

theorem isNull_modifyItem (array : Value) : (modifyItem alter array).isNull = array.isNull := by
  cases array <;> rfl

theorem isNull_modifyMember (place : Nat) (object : Value) :
    (modifyMember alter place object).isNull = object.isNull := by
  cases object <;> rfl

theorem itemTypes_modifyItem (array : Value) :
    itemTypes (modifyItem alter array) = (itemTypes array).map alter := by
  cases array <;> rfl

theorem entriesOf?_modifyMembers (place : Nat) (members : Value) :
    entriesOf? (modifyMembers alter place members) =
      (entriesOf? members).map fun known => known.modify place fun d => (d.1, alter d.2) := by
  cases members <;> rfl

theorem declarations_modifyMember (place : Nat) (object : Value) :
    declarations (modifyMember alter place object) =
      (declarations object).modify place fun d => (d.1, alter d.2) := by
  cases object
  case objectSchema members allowExtraMembers matcher =>
    rw [modifyMember, declarations, declarations, entriesOf?_modifyMembers]
    cases entriesOf? members <;> simp
  all_goals simp [modifyMember, declarations]

theorem isSome_find?_modify (known : Value.Entries) (place : Nat) (key : Value) :
    (Value.find? (known.modify place fun d => (d.1, alter d.2)) key).isSome =
      (Value.find? known key).isSome := by
  simp only [Value.find?, Option.isSome_map]
  induction known generalizing place with
  | nil => rw [List.modify_nil]
  | cons d known ih =>
      cases place with
      | zero =>
          rw [List.modify_zero_cons, List.find?_cons, List.find?_cons]
          cases Value.equal key d.1 <;> rfl
      | succ place =>
          rw [List.modify_succ_cons, List.find?_cons, List.find?_cons]
          cases Value.equal key d.1 with
          | true => rfl
          | false => exact ih place

theorem contains_modifyMembers (place : Nat) (members key : Value) :
    (modifyMembers alter place members).contains key = members.contains key := by
  cases hknown : entriesOf? members with
  | some known =>
      have hmodified := entriesOf?_modifyMembers alter place members
      rw [hknown, Option.map_some] at hmodified
      rw [contains_of_mapping hmodified, contains_of_mapping hknown, Value.lookup, Value.lookup]
      cases Value.unhashable? key with
      | some typeName => rfl
      | none => simp [Except.map, isSome_find?_modify]
  | none =>
      cases members <;> first | rfl | cases hknown

theorem declared_modifyMembers (place : Nat) (members : Value) (entries : Value.Entries) :
    declared (modifyMembers alter place members) entries = declared members entries := by
  induction entries with
  | nil => rfl
  | cons e entries ih => rw [declared, declared, contains_modifyMembers, ih]

theorem enumerable_modifyMembers (place : Nat) (members : Value) :
    enumerable (modifyMembers alter place members) = enumerable members := by
  cases members <;> rfl

theorem checkArray_modifyItem (calls : Interpretation) (value array : Value) :
    checkArray calls value (modifyItem alter array) = checkArray calls value array := by
  cases array <;> rfl

theorem checkObject_modifyMember (calls : Interpretation) (value : Value) (place : Nat)
    (object : Value) :
    checkObject calls value (modifyMember alter place object) =
      checkObject calls value object := by
  cases object
  case objectSchema members allowExtraMembers matcher =>
    rw [modifyMember, checkObject, checkObject]
    simp only [admitsObject_eq_andThen, declared_modifyMembers, enumerable_modifyMembers]
  all_goals rfl

end Modify

/-! ## Two changes at the same position -/

section Showing

variable {alter alter' : Value → Value} (h : ∀ part, (alter part).showsLong = (alter' part).showsLong)

include h

theorem showsLong_modifyItem (array : Value) :
    (modifyItem alter array).showsLong = (modifyItem alter' array).showsLong := by
  cases array <;> simp only [modifyItem]
  rw [Value.showsLong, Value.showsLong, h]

theorem showsLongEntry_modify (known : Value.Entries) (place : Nat) :
    Value.showsLongEntry (known.modify place fun d => (d.1, alter d.2)) =
      Value.showsLongEntry (known.modify place fun d => (d.1, alter' d.2)) := by
  induction known generalizing place with
  | nil => rw [List.modify_nil, List.modify_nil]
  | cons d known ih =>
      cases place with
      | zero =>
          rw [List.modify_zero_cons, List.modify_zero_cons, Value.showsLongEntry,
            Value.showsLongEntry, h]
      | succ place =>
          rw [List.modify_succ_cons, List.modify_succ_cons, Value.showsLongEntry,
            Value.showsLongEntry, ih]

theorem showsLong_modifyMembers (place : Nat) (members : Value) :
    (modifyMembers alter place members).showsLong =
      (modifyMembers alter' place members).showsLong := by
  cases members <;> simp only [modifyMembers]
  all_goals
    rw [Value.showsLong, Value.showsLong]
    exact showsLongEntry_modify h _ place

theorem showsLong_modifyMember (place : Nat) (object : Value) :
    (modifyMember alter place object).showsLong = (modifyMember alter' place object).showsLong := by
  cases object <;> simp only [modifyMember]
  rw [Value.showsLong, Value.showsLong, showsLong_modifyMembers h]

/-- Changes that make the same parts too long to be written do so to the whole schema. -/
theorem showsLong_modifyAt (places : List Place) (schema : Value) :
    (modifyAt alter places schema).showsLong = (modifyAt alter' places schema).showsLong := by
  induction places generalizing schema with
  | nil => exact h schema
  | cons place places ih =>
      cases schema
      case complexSchema =>
        cases place <;> simp only [modifyAt]
        · rw [Value.showsLong, Value.showsLong, showsLong_modifyItem ih]
        · rw [Value.showsLong, Value.showsLong, showsLong_modifyMember ih]
      all_goals cases place <;> rfl

end Showing

/-! ## Runs against a changed schema -/

section Runs

variable {calls : Interpretation} {value : Value}

/-- Fields that are set alike and ask alike make the same run, whatever flags are not looked at. -/
theorem sameRun_of_fields {scalar array array' object object' enumeration string number optional
      optional' nullable nullable' : Value}
    (hshown :
      (Value.complexSchema scalar array' object' enumeration string number optional'
          nullable').showsLong =
        (Value.complexSchema scalar array object enumeration string number optional
          nullable).showsLong)
    (harray : array'.isNull = array.isNull) (hobject : object'.isNull = object.isNull)
    (hnullable : value.isNull = true → nullable'.isTrue = nullable.isTrue)
    (hoptional : value.isMissing = true → optional'.isTrue = optional.isTrue)
    (harrays : SameRun (validateArray calls value array') (validateArray calls value array))
    (hobjects : SameRun (validateObject calls value object') (validateObject calls value object)) :
    SameRun
      (validate calls value
        (.complexSchema scalar array' object' enumeration string number optional' nullable'))
      (validate calls value
        (.complexSchema scalar array object enumeration string number optional nullable)) := by
  have haggregation :
      aggregation
          (.complexSchema scalar array' object' enumeration string number optional' nullable') =
        aggregation
          (.complexSchema scalar array object enumeration string number optional nullable) := by
    simp only [aggregation, present, harray, hobject]
  rw [validate, validate]
  refine SameRun.bind ⟨?_, ?_⟩ fun kind _ => ?_
  · exact result_inferAggregation_congr haggregation hshown
  · rw [calls_inferAggregation, calls_inferAggregation]
  · by_cases hnull : value.isNull = true
    · rw [if_pos hnull, if_pos hnull, hnullable hnull]
      exact .refl _
    · rw [if_neg hnull, if_neg hnull]
      by_cases hmissing : value.isMissing = true
      · rw [if_pos hmissing, if_pos hmissing, hoptional hmissing]
        exact .refl _
      · rw [if_neg hmissing, if_neg hmissing]
        cases kind with
        | array => exact harrays
        | object => exact hobjects
        | enumeration => exact .refl _
        | scalar => exact .refl _

theorem sameRun_modifyItem {alter alter' : Value → Value} {array : Value}
    (h : ∀ items item part, value.items? = some items → item ∈ items → part ∈ itemTypes array →
      SameRun (validate calls item (alter part)) (validate calls item (alter' part))) :
    SameRun (validateArray calls value (modifyItem alter array))
      (validateArray calls value (modifyItem alter' array)) := by
  simp only [validateArray_eq_andThen, checkArray_modifyItem, itemTypes_modifyItem,
    Outcome.all_flatMap, Outcome.all_map]
  apply (SameRun.refl _).andThen
  apply SameRun.all
  intro part hpart
  cases hitems : value.items? with
  | none => exact .refl _
  | some items =>
      apply SameRun.all
      intro item hitem
      exact h items item part hitems hitem hpart

theorem sameRun_modifyMember {alter alter' : Value → Value} {place : Nat} {object : Value}
    (h : ∀ entries name part, value.entries? = some entries →
      (declarations object)[place]? = some (name, part) →
      SameRun (validate calls (memberValue entries name) (alter part))
        (validate calls (memberValue entries name) (alter' part))) :
    SameRun (validateObject calls value (modifyMember alter place object))
      (validateObject calls value (modifyMember alter' place object)) := by
  simp only [validateObject_eq_andThen, checkObject_modifyMember, declarations_modifyMember]
  apply (SameRun.refl _).andThen
  cases hentries : value.entries? with
  | none => exact .refl _
  | some entries =>
      dsimp only
      rw [Outcome.all_map, Outcome.all_map]
      apply SameRun.all_modify
      rintro ⟨name, part⟩ hpart
      exact h entries name part hentries hpart

/-- If two changes make no difference to any part of the value that their position describes, they
make none to the whole run. -/
theorem sameRun_modifyAt {alter alter' : Value → Value}
    (hshown : ∀ part, (alter part).showsLong = (alter' part).showsLong) {places : List Place}
    {schema : Value}
    (h : ∀ path target goal, Reached value schema path places target goal →
      SameRun (validate calls target (alter goal)) (validate calls target (alter' goal))) :
    SameRun (validate calls value (modifyAt alter places schema))
      (validate calls value (modifyAt alter' places schema)) := by
  -- Behind the first place the change is one of a part, made for every item or member value alike.
  induction places generalizing value schema with
  | nil => exact h [] value schema .here
  | cons place places ih =>
      have hwhole := showsLong_modifyAt hshown (place :: places) schema
      cases schema
      case complexSchema scalar array object enumeration string number optional nullable =>
        cases place with
        | item =>
            apply sameRun_of_fields hwhole (by simp only [isNull_modifyItem]) rfl (fun _ => rfl)
              (fun _ => rfl)
            · apply sameRun_modifyItem
              intro items item part hitems hitem hpart
              apply ih
              intro path target goal hreached
              obtain ⟨i, hi⟩ := List.mem_iff_getElem?.mp hitem
              exact h (.index i :: path) target goal (.item hitems hi hpart hreached)
            · exact .refl _
        | member place =>
            apply sameRun_of_fields hwhole rfl (by simp only [isNull_modifyMember]) (fun _ => rfl)
              (fun _ => rfl)
            · exact .refl _
            · apply sameRun_modifyMember
              intro entries name part hentries hpart
              apply ih
              intro path target goal hreached
              exact h (.key name :: path) target goal (.member hentries hpart hreached)
      all_goals cases place <;> exact .refl _

end Runs

def withNullable (flag : Value) : Value → Value
  | .complexSchema scalar array object enumeration string number optional _ =>
    .complexSchema scalar array object enumeration string number optional flag
  | schema => schema

def withOptional (flag : Value) : Value → Value
  | .complexSchema scalar array object enumeration string number _ nullable =>
    .complexSchema scalar array object enumeration string number flag nullable
  | schema => schema

section Settings

variable {flag flag' : Value} (hshown : flag.showsLong = flag'.showsLong)

include hshown

theorem showsLong_withNullable (schema : Value) :
    (withNullable flag schema).showsLong = (withNullable flag' schema).showsLong := by
  cases schema <;> simp only [withNullable]
  rw [Value.showsLong, Value.showsLong, hshown]

theorem showsLong_withOptional (schema : Value) :
    (withOptional flag schema).showsLong = (withOptional flag' schema).showsLong := by
  cases schema <;> simp only [withOptional]
  rw [Value.showsLong, Value.showsLong, hshown]

theorem sameRun_withNullable (calls : Interpretation) {value : Value}
    (h : value.isNull = false) (schema : Value) :
    SameRun (validate calls value (withNullable flag schema))
      (validate calls value (withNullable flag' schema)) := by
  have hwhole := showsLong_withNullable hshown schema
  cases schema
  case complexSchema scalar array object enumeration string number optional nullable =>
    apply sameRun_of_fields hwhole rfl rfl ?_ (fun _ => rfl) (.refl _) (.refl _)
    intro hnull
    exact absurd (hnull.symm.trans h) (by simp)
  all_goals exact .refl _

theorem sameRun_withOptional (calls : Interpretation) {value : Value}
    (h : value.isMissing = false) (schema : Value) :
    SameRun (validate calls value (withOptional flag schema))
      (validate calls value (withOptional flag' schema)) := by
  have hwhole := showsLong_withOptional hshown schema
  cases schema
  case complexSchema scalar array object enumeration string number optional nullable =>
    apply sameRun_of_fields hwhole rfl rfl (fun _ => rfl) ?_ (.refl _) (.refl _)
    intro hmissing
    exact absurd (hmissing.symm.trans h) (by simp)
  all_goals exact .refl _

end Settings

/-! ## Members bound to the absent value -/

def without (entries : Value.Entries) (name : Value) : Value.Entries :=
  entries.filter fun e => !Value.equal e.1 name

/-- A record with a key bound and the record without the key differ in one entry. -/
theorem exists_bound {entries : Value.Entries} {name : Value} (h : Keyed entries)
    (hname : Value.unhashable? name = none) (hself : Value.equal name name = true)
    (value : Value) :
    ∃ before key after, Value.equal key name = true ∧
      Value.store entries name value = before ++ (key, value) :: after ∧
      without entries name = before ++ after := by
  induction entries with
  | nil => exact ⟨[], name, [], hself, rfl, rfl⟩
  | cons e entries ih =>
      obtain ⟨key, old⟩ := e
      by_cases hequal : Value.equal key name = true
      · have hsplit : Keyed ([] ++ (key, old) :: entries) := h
        have hothers : ∀ e ∈ entries, Value.equal e.1 name = false :=
          hsplit.others_differ hname hequal
        refine ⟨[], key, entries, hequal, ?_, ?_⟩
        · rw [Value.store, if_pos hequal, List.nil_append]
        · rw [without, List.filter_cons_of_neg (by simpa using hequal), List.nil_append,
            List.filter_eq_self]
          intro e he
          simp [hothers e he]
      · obtain ⟨before, key', after, hsame, hstore, hwithout⟩ :=
          ih (h.sublist (List.sublist_cons_self _ _))
        refine ⟨(key, old) :: before, key', after, hsame, ?_, ?_⟩
        · rw [Value.store, if_neg hequal, hstore, List.cons_append]
        · rw [without, List.filter_cons_of_pos (by simpa using hequal), List.cons_append,
            ← hwithout]
          rfl

/-- Under every name both records have the same value, which is the absent one under the key. -/
theorem memberValue_of_bound {before after : Value.Entries} {key name : Value}
    (h : Keyed (before ++ (key, .missing) :: after)) (hname : Value.unhashable? name = none) :
    memberValue (before ++ (key, .missing) :: after) name = memberValue (before ++ after) name := by
  have hmem : (key, .missing) ∈ before ++ (key, .missing) :: after :=
    List.mem_append_right before List.mem_cons_self
  by_cases hequal : Value.equal key name = true
  · have hothers : Keyed (before ++ after) := h.sublist (by simp)
    have hbound := h.find?_of_equal hmem hname hequal
    have hunbound := hothers.find?_eq_none hname (h.others_differ hname hequal)
    rw [memberValue, memberValue, hbound, hunbound]
    rfl
  · have hdiffers : Value.equal name key = false := by
      rw [Bool.eq_false_iff]
      exact fun hsame => hequal (Value.equal_symm hname (h.1 _ hmem) hsame)
    simp [memberValue, Value.find?, List.find?_append, hdiffers]

/-- A key that is declared may be left out of a record whose keys are looked up. -/
theorem declared_of_bound {members key : Value} (h : members.contains key = .ok true)
    (value : Value) (before after : Value.Entries) :
    declared members (before ++ (key, value) :: after) = declared members (before ++ after) := by
  induction before with
  | nil =>
      rw [List.nil_append, List.nil_append, declared, h]
      rfl
  | cons e before ih => rw [List.cons_append, List.cons_append, declared, declared, ih]

section Bound

variable {bound unbound members allowExtraMembers name : Value} {known entries : Value.Entries}

/-- Without a matcher, an object does not tell a member bound to the absent value from none. -/
theorem validateObject_of_bound (calls : Interpretation) (hknown : entriesOf? members = some known)
    (hkeyed : Keyed known) (hdeclared : ∃ d ∈ known, Value.equal name d.1 = true)
    (hentries : Keyed entries)
    (hbound : bound.entries? = some (Value.store entries name .missing))
    (hunbound : unbound.entries? = some (without entries name)) :
    validateObject calls bound (.objectSchema members allowExtraMembers .null) =
      validateObject calls unbound (.objectSchema members allowExtraMembers .null) := by
  obtain ⟨d, hd, hequal⟩ := hdeclared
  have hd' := hkeyed.1 d hd
  have hname := Value.hashable_of_equal hequal hd'
  have hself : Value.equal name name = true :=
    Value.equal_trans hname hd' hequal (Value.equal_symm hname hd' hequal)
  obtain ⟨before, key, after, hsame, hstore, hwithout⟩ :=
    exists_bound hentries hname hself .missing
  have hstored : Keyed (before ++ (key, .missing) :: after) := by
    rw [← hstore]
    exact hentries.store hname .missing
  have hkey : Value.unhashable? key = none := Value.hashable_of_equal hsame hname
  have hcontains : members.contains key = .ok true := by
    rw [contains_eq_ok_true_iff hknown, Value.find?, Option.isSome_map, List.find?_isSome]
    exact ⟨hkey, d, hd, Value.equal_trans hkey hname hsame hequal⟩
  rw [hstore] at hbound
  rw [hwithout] at hunbound
  rw [validateObject_eq_andThen, validateObject_eq_andThen, checkObject, checkObject, hbound,
    hunbound]
  dsimp only
  congr 1
  · rw [admitsObject_eq_andThen, admitsObject_eq_andThen, declared_of_bound hcontains]
    rfl
  · rw [Outcome.all_map, Outcome.all_map]
    apply Outcome.all_congr
    rintro ⟨other, part⟩ hother
    have hhashable : Value.unhashable? other = none := by
      apply hkeyed.1 (other, part)
      simpa [declarations, hknown] using hother
    dsimp only
    rw [memberValue_of_bound hstored hhashable]

/-- The same for a structured schema that holds the object. -/
theorem validate_of_bound (calls : Interpretation)
    {scalar array enumeration string number optional nullable : Value}
    {es fs : Value.Entries} (hbound : bound.entries? = some es)
    (hunbound : unbound.entries? = some fs)
    (h : validateObject calls bound (.objectSchema members allowExtraMembers .null) =
      validateObject calls unbound (.objectSchema members allowExtraMembers .null)) :
    validate calls bound
        (.complexSchema scalar array (.objectSchema members allowExtraMembers .null) enumeration
          string number optional nullable) =
      validate calls unbound
        (.complexSchema scalar array (.objectSchema members allowExtraMembers .null) enumeration
          string number optional nullable) := by
  obtain ⟨hnull, hmissing⟩ := not_absent_of_entries hbound
  obtain ⟨hnull', hmissing'⟩ := not_absent_of_entries hunbound
  rw [validate, validate]
  cases hkind : aggregation
      (.complexSchema scalar array (.objectSchema members allowExtraMembers .null) enumeration
        string number optional nullable) with
  | error fault =>
      obtain ⟨other, hfault⟩ := exists_inferAggregation_error hkind
      exact Outcome.bind_of_error hfault _ _
  | ok kind =>
      obtain ⟨hpresent, -⟩ := aggregation_eq_ok_iff.mp hkind
      have hobject : .object = kind := (present_eq_singleton.mp hpresent .object).mp rfl
      subst hobject
      simp only [inferAggregation_of_ok hkind, Outcome.bind_eq_bind, Outcome.bind_pure_left, hnull,
        hmissing, hnull', hmissing', Bool.false_eq_true, if_false]
      exact h

end Bound

/-! ## Where flags have no influence -/

/-- Whichever way `nullable` is set at a position of a schema, a validation has the same outcome and
makes the same calls, unless there is null at a position of the value that belongs to it; and
whichever way `optional` is set, unless there an absent member or the absent value is found. And
without a matcher, a record with a declared name bound to the absent value runs like the record
without the name. -/
theorem flags_without_influence (calls : Interpretation) (value schema : Value)
    (places : List Place) :
    (∀ flag flag', flag.showsLong = flag'.showsLong →
      (∀ path target goal, Reached value schema path places target goal →
        target.isNull = false) →
      SameRun (validate calls value (modifyAt (withNullable flag) places schema))
        (validate calls value (modifyAt (withNullable flag') places schema))) ∧
    (∀ flag flag', flag.showsLong = flag'.showsLong →
      (∀ path target goal, Reached value schema path places target goal →
        target.isMissing = false) →
      SameRun (validate calls value (modifyAt (withOptional flag) places schema))
        (validate calls value (modifyAt (withOptional flag') places schema))) ∧
    ∀ (members allowExtraMembers name bound unbound : Value) (known entries : Value.Entries),
      entriesOf? members = some known → Keyed known → Keyed entries →
      (∃ d ∈ known, Value.equal name d.1 = true) →
      bound.entries? = some (Value.store entries name .missing) →
      unbound.entries? = some (without entries name) →
      validateObject calls bound (.objectSchema members allowExtraMembers .null) =
          validateObject calls unbound (.objectSchema members allowExtraMembers .null) ∧
        ∀ scalar array enumeration string number optional nullable : Value,
          validate calls bound
              (.complexSchema scalar array (.objectSchema members allowExtraMembers .null)
                enumeration string number optional nullable) =
            validate calls unbound
              (.complexSchema scalar array (.objectSchema members allowExtraMembers .null)
                enumeration string number optional nullable) := by
  refine ⟨?_, ?_, ?_⟩
  · intro flag flag' hshown hpresent
    apply sameRun_modifyAt (showsLong_withNullable hshown)
    intro path target goal hreached
    exact sameRun_withNullable hshown calls (hpresent path target goal hreached) goal
  · intro flag flag' hshown hpresent
    apply sameRun_modifyAt (showsLong_withOptional hshown)
    intro path target goal hreached
    exact sameRun_withOptional hshown calls (hpresent path target goal hreached) goal
  · intro members allowExtraMembers name bound unbound known entries hknown hkeyed hentries
      hdeclared hbound hunbound
    have hobject : validateObject calls bound (.objectSchema members allowExtraMembers .null) =
        validateObject calls unbound (.objectSchema members allowExtraMembers .null) :=
      validateObject_of_bound calls hknown hkeyed hdeclared hentries hbound hunbound
    refine ⟨hobject, ?_⟩
    intro scalar array enumeration string number optional nullable
    exact validate_of_bound calls hbound hunbound hobject

def phoneField : Value :=
  .complexSchema (.str "string") .null .null .null .null .null (.bool false) (.bool false)

def contactFields : Value := .objectSchema (.dict [(.str "phone", phoneField)]) (.bool true) .null

def contact : Value :=
  .complexSchema .null .null contactFields .null .null .null (.bool false) (.bool false)

def contacts : Value :=
  .complexSchema .null (.arraySchema contact .null .null .null .null) .null .null .null .null
    (.bool false) (.bool false)

def phonePlace : List Place := [.item, .member 0]

/-- The second contact has no phone. -/
def absentPhone : Value :=
  .list [.dict [(.str "phone", .str "1")], .dict [(.str "name", .str "b")]]

/-- The second contact has null for a phone. -/
def nullPhone : Value :=
  .list [.dict [(.str "phone", .str "1")], .dict [(.str "phone", .null)]]

/-- Every phone in a list of contacts is what a contact has under the name. -/
theorem exists_contact_of_reached {items : List Value} {target goal : Value} {path : List Step}
    (h : Reached (.list items) contacts path phonePlace target goal) :
    ∃ item ∈ items, ∃ entries, item.entries? = some entries ∧
      target = memberValue entries (.str "phone") := by
  cases h with
  | item hitems hitem hpart rest =>
      cases hitems
      cases List.mem_singleton.mp hpart
      cases rest with
      | member hentries hpart rest =>
          cases hpart
          cases rest
          exact ⟨_, List.mem_of_getElem? hitem, _, hentries, rfl⟩

theorem not_null_of_absentPhone : ∀ path target goal,
    Reached absentPhone contacts path phonePlace target goal → target.isNull = false := by
  intro path target goal h
  obtain ⟨item, hitem, entries, hentries, rfl⟩ := exists_contact_of_reached h
  rcases List.mem_pair.mp hitem with rfl | rfl
  all_goals
    cases hentries
    rfl

theorem not_missing_of_nullPhone : ∀ path target goal,
    Reached nullPhone contacts path phonePlace target goal → target.isMissing = false := by
  intro path target goal h
  obtain ⟨item, hitem, entries, hentries, rfl⟩ := exists_contact_of_reached h
  rcases List.mem_pair.mp hitem with rfl | rfl
  all_goals
    cases hentries
    rfl

/-- Neither flag of the phone has influence where only the other one is looked at. -/
theorem flags_without_influence_contacts :
    SameRun
        (validate standard absentPhone
          (modifyAt (withNullable (.bool true)) phonePlace contacts))
        (validate standard absentPhone contacts) ∧
      SameRun
        (validate standard nullPhone
          (modifyAt (withOptional (.bool true)) phonePlace contacts))
        (validate standard nullPhone contacts) ∧
      validateObject standard (.dict [(.str "name", .str "b"), (.str "phone", .missing)])
          contactFields =
        validateObject standard (.dict [(.str "name", .str "b")]) contactFields := by
  have hnullable := (flags_without_influence standard absentPhone contacts phonePlace).1
    (.bool true) (.bool false) rfl not_null_of_absentPhone
  have hoptional := (flags_without_influence standard nullPhone contacts phonePlace).2.1
    (.bool true) (.bool false) rfl not_missing_of_nullPhone
  have hbound := (flags_without_influence standard absentPhone contacts phonePlace).2.2
  have hknown : Keyed [(.str "phone", phoneField)] := by decide
  have hentries : Keyed [(.str "name", .str "b"), (.str "phone", .str "1")] := by decide
  -- The phone has neither flag, so setting one to false changes nothing.
  refine ⟨hnullable, hoptional, ?_⟩
  exact (hbound _ (.bool true) (.str "phone") _ _ _ _ rfl hknown hentries
    ⟨_, List.mem_singleton.mpr rfl, rfl⟩ rfl rfl).1

/-- Where null stands, the flag decides. -/
example :
    ¬ (validate standard nullPhone contacts).Passed ∧
      (validate standard nullPhone
        (modifyAt (withNullable (.bool true)) phonePlace contacts)).Passed := by decide

end Conformance.Schema
