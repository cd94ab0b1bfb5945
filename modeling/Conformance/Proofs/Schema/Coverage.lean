import Conformance.Predicate
import Conformance.Proofs.Schema.Acceptance
import Conformance.Proofs.Schema.Place

/-! # Nothing passes unchecked

Validation goes through the declared members and the items; this module goes through the value
instead. Under a strict schema, which allows no extra members and enumerates only scalars, every
position of an accepted value has exactly one position of the schema, and what stands there is
accepted by the schema found there. So an accepted value is nested no deeper than its schema.
-/

namespace Conformance.Schema

open Value (Step Inside WellKeyed Keyed)

/-- A scalar or a member of an enumeration. -/
def isPlain (value : Value) : Bool :=
  value.kind?.isSome ||
    match value with
    | .member _ => true
    | _ => false

def Strict (schema : Value) : Prop :=
  match schema with
  | .complexSchema _ _ object enumeration _ _ _ _ =>
    (∀ members allowExtraMembers matcher,
      object = .objectSchema members allowExtraMembers matcher →
        allowExtraMembers.truthy = false) ∧
    ∀ options, enumeration.iterate = .ok options → ∀ option ∈ options, isPlain option = true
  | _ => True

/-! ## What equals a scalar -/

theorem isPlain_of_number {value : Value} (h : value.number?.isSome = true) :
    isPlain value = true := by
  cases value <;> first | rfl | cases h | simp [isPlain]

theorem isPlain_of_text {value : Value} (h : value.text?.isSome = true) : isPlain value = true := by
  cases value <;> first | rfl | cases h | simp [isPlain]

/-- The atom of a scalar or of a member is that of scalars and members only. -/
theorem isPlain_of_atom {value option : Value} {x : Value.Atom} (hoption : isPlain option = true)
    (h : Value.atom? value = some x) (h' : Value.atom? option = some x) :
    isPlain value = true := by
  cases x
  case number mark => exact isPlain_of_number (Value.number?_of_atom h)
  case text s => exact isPlain_of_text (by simp [Value.text?_of_atom h])
  case member m =>
    have hplain := Value.plainAtom?_of_atom h (by simp) (by simp)
    cases value <;> simp [Value.plainAtom?] at hplain
    simp [isPlain]
  all_goals
    have hplain := Value.plainAtom?_of_atom h' (by simp) (by simp)
    cases option <;> simp [Value.plainAtom?] at hplain
    cases hoption

/-- Only a scalar or a member of an enumeration equals one. -/
theorem isPlain_of_equal {value option : Value} (hoption : isPlain option = true)
    (h : Value.equal value option = true) : isPlain value = true := by
  have hhashable : Value.unhashable? option = none := by
    cases option <;> first | rfl | cases hoption
  have hleaf : Value.isNode option = false := by
    cases option <;> first | rfl | cases hoption
  obtain ⟨x, hvalue, hx⟩ := Value.exists_atom_of_equal hhashable hleaf h
  exact isPlain_of_atom hoption hvalue hx

/-- A value that nothing is inside of: nothing, an absent member, or a plain value. -/
def isLeaf (value : Value) : Bool := value.isNull || value.isMissing || isPlain value

theorem not_container_of_leaf {value : Value} (h : isLeaf value = true) :
    value.sequence? = none ∧ value.mapping? = none := by
  cases value <;> first | exact ⟨rfl, rfl⟩ | exact absurd h Bool.false_ne_true

theorem isLeaf_of_plain {value : Value} (h : isPlain value = true) : isLeaf value = true := by
  simp [isLeaf, h]

theorem isPlain_of_kind {value : Value} {kind : Kind} (h : value.kind? = some kind) :
    isPlain value = true := by
  simp [isPlain, h]

theorem isPlain_of_enumerated {value enumeration : Value}
    (hoptions : ∀ options, enumeration.iterate = .ok options →
      ∀ option ∈ options, isPlain option = true)
    (h : validateEnum value enumeration = .ok true) : isPlain value = true := by
  obtain ⟨options, hiterate, option, hoption, hequal⟩ := validateEnum_eq_ok_true_iff.mp h
  unfold strictlyEqual at hequal
  cases hkind : value.kind? with
  | some kind => exact isPlain_of_kind hkind
  | none =>
      rw [hkind, Bool.and_eq_true] at hequal
      exact isPlain_of_equal (hoptions options hiterate option hoption) hequal.2

variable {calls : Interpretation} {value schema : Value}

/-- Every key of an accepted record is declared, and every declared member is accepted. -/
def CoversEntries (calls : Interpretation) (schema : Value) (entries : Value.Entries) : Prop :=
  (∀ e ∈ entries, Value.unhashable? e.1 = none ∧
    ∃ d ∈ memberSchemas schema, Value.equal e.1 d.1 = true) ∧
  ∀ d ∈ memberSchemas schema, (validate calls (memberValue entries d.1) d.2).Passed

/-- An accepted value is a leaf, or a list whose items are accepted, or a plain record whose
entries are covered. -/
theorem shape_of_passed (hstrict : Strict schema) (h : (validate calls value schema).Passed) :
    isLeaf value = true ∨ opens schema = true ∧
      ((∃ items part, value.items? = some items ∧ part ∈ itemSchemas schema ∧
          ∀ item ∈ items, (validate calls item part).Passed) ∨
        ∃ entries, value.entries? = some entries ∧ CoversEntries calls schema entries) := by
  rcases contract_or_tag_of_passed h with ⟨_, hcontract⟩ | ⟨_, -, hvalue⟩
  · obtain ⟨scalar, array, object, enumeration, string, number, optional, nullable, rfl⟩ :=
      complex_of_aggregation_eq_ok hcontract
    obtain ⟨kind, hkind, hadmitted⟩ := passed_validate_complex.mp h
    obtain ⟨hpresent, -⟩ := aggregation_eq_ok_iff.mp hkind
    have hset := (present_eq_singleton.mp hpresent kind).mpr rfl
    by_cases hnull : value.isNull
    · exact .inl (by simp [isLeaf, hnull])
    by_cases hmissing : value.isMissing
    · exact .inl (by simp [isLeaf, hmissing])
    have hrepresents : Represents calls value scalar array object enumeration string number kind :=
      by simpa [Admitted, hnull, hmissing] using hadmitted
    cases kind with
    | scalar =>
        obtain ⟨kind, -, hvalue, -⟩ := hrepresents
        exact .inl (isLeaf_of_plain (isPlain_of_kind hvalue))
    | enumeration => exact .inl (isLeaf_of_plain (isPlain_of_enumerated hstrict.2 hrepresents))
    | array =>
        have hopens : opens (.complexSchema scalar array object enumeration string number optional
            nullable) = true := by
          have harray : array.isNull = false := hset
          simp [opens, harray]
        obtain ⟨itemType, length, minLength, maxLength, matcher, rfl⟩ :=
          arraySchema_of_passed hrepresents
        obtain ⟨items, hitems, -, -, hall⟩ := passed_validateArray.mp hrepresents
        exact .inr ⟨hopens, .inl ⟨items, itemType, hitems, List.mem_singleton.mpr rfl, hall⟩⟩
    | object =>
        have hopens : opens (.complexSchema scalar array object enumeration string number optional
            nullable) = true := by
          have hobject : object.isNull = false := hset
          simp [opens, hobject]
        obtain ⟨members, allowExtraMembers, matcher, rfl⟩ := objectSchema_of_passed hrepresents
        obtain ⟨entries, known, hentries, hknown, hdeclared, -, hall⟩ :=
          passed_validateObject.mp hrepresents
        have hnames := (declared_iff_names hknown).mp
          (hdeclared (hstrict.1 members allowExtraMembers matcher rfl))
        refine .inr ⟨hopens, .inr ⟨entries, hentries, ?_⟩⟩
        simp only [CoversEntries, memberSchemas, declarations, hknown, Option.getD_some]
        exact ⟨hnames, hall⟩
  · exact .inl (isLeaf_of_plain (isPlain_of_kind hvalue))

/-! ## Every position -/

/-- What stands at a position of an accepted value is accepted by the schema found at the
corresponding position. -/
theorem corresponds_of_inside {target : Value} {path : List Step}
    (hinside : Inside value path target) (hstrict : Every Strict schema)
    (hschema : WellKeyed schema) (hvalue : WellKeyed value)
    (hpassed : (validate calls value schema).Passed) :
    ∃ places part, Corresponds schema path places part ∧ Every Strict part ∧
      (validate calls target part).Passed := by
  induction hinside generalizing schema with
  | here => exact ⟨[], schema, .root, hstrict, hpassed⟩
  | index hitems hitem rest ih =>
      have hmem := List.mem_of_getElem? hitem
      rcases shape_of_passed hstrict.root hpassed with
        hleaf | ⟨-, ⟨items, part, hlist, hpart, hall⟩ | ⟨entries, hrecord, -⟩⟩
      · exact absurd (hitems.symm.trans (not_container_of_leaf hleaf).1) (by simp)
      · cases hitems.symm.trans (Value.sequence?_of_items hlist).1
        have hnested := mem_parts_of_item hpart
        obtain ⟨places, target, hplaces, htarget⟩ := ih (hstrict.part hnested)
          (wellKeyed_of_mem_parts hschema hnested) (hvalue.of_sequence hitems _ hmem)
          (hall _ hmem)
        exact ⟨.item :: places, target, .item hpart hplaces, htarget⟩
      · exact absurd (hitems.symm.trans (Value.mapping?_of_entries hrecord).2) (by simp)
  | key hentries hmember rest ih =>
      rcases shape_of_passed hstrict.root hpassed with
        hleaf | ⟨-, ⟨items, part, hlist, -⟩ | ⟨entries, hrecord, hnames, hall⟩⟩
      · exact absurd (hentries.symm.trans (not_container_of_leaf hleaf).2) (by simp)
      · exact absurd (hentries.symm.trans (Value.sequence?_of_items hlist).2) (by simp)
      · cases hentries.symm.trans (Value.mapping?_of_entries hrecord).1
        obtain ⟨hkeyed, hmembers⟩ := hvalue.of_mapping hentries
        obtain ⟨-, d, hd, hequal⟩ := hnames _ hmember
        obtain ⟨place, hplace⟩ := List.mem_iff_getElem?.mp hd
        have hdeclared := (wellKeyed_memberSchemas hschema).1.1 d hd
        have hfound := hkeyed.find?_of_equal hmember hdeclared hequal
        have haccepted := hall d hd
        rw [memberValue, hfound, Option.getD_some] at haccepted
        have hnested := mem_parts_of_member hd
        obtain ⟨places, target, hplaces, htarget⟩ := ih (hstrict.part hnested)
          (wellKeyed_of_mem_parts hschema hnested) (hmembers _ hmember) haccepted
        exact ⟨.member place :: places, target, .member hplace hequal hplaces, htarget⟩

/-- Every position of a value that a strict schema accepts belongs to exactly one position of the
schema and is accepted there. What stands at it is a leaf, a list or a plain record, and a
container only where the schema still has one to nest. -/
theorem strict_schema_covers {target : Value} {path : List Step}
    (hstrict : Every Strict schema) (hschema : WellKeyed schema) (hvalue : WellKeyed value)
    (hpassed : (validate calls value schema).Passed) (hinside : Inside value path target) :
    (∃ places part, Corresponds schema path places part ∧ (validate calls target part).Passed ∧
      ∀ places' part', Corresponds schema path places' part' → places' = places ∧ part' = part) ∧
    (isLeaf target = true ∨ target.items?.isSome = true ∨ target.entries?.isSome = true) ∧
    (target.isContainer = true → path.length < nesting schema) := by
  obtain ⟨places, part, hplaces, hstrictPart, haccepted⟩ :=
    corresponds_of_inside hinside hstrict hschema hvalue hpassed
  have hpath := Value.hashable_of_mem_path hinside hvalue
  have hshape := shape_of_passed hstrictPart.root haccepted
  refine ⟨⟨places, part, hplaces, haccepted, ?_⟩, ?_, ?_⟩
  · intro places' part' hplaces'
    exact Corresponds.unique hschema hpath hplaces hplaces'
  · rcases hshape with hleaf | ⟨-, ⟨items, _, hitems, -⟩ | ⟨entries, hentries, -⟩⟩
    · exact .inl hleaf
    · exact .inr (.inl (by simp [hitems]))
    · exact .inr (.inr (by simp [hentries]))
  · intro hcontainer
    have hle := hplaces.length_add_nesting_le
    rcases hshape with hleaf | ⟨hopens, -⟩
    · simp [Value.isContainer, not_container_of_leaf hleaf] at hcontainer
    · have hpos := nesting_pos hopens
      omega

def texts : Value :=
  .complexSchema .null (.arraySchema (.str "string") .null .null .null .null) .null .null .null
    .null (.bool false) (.bool false)

def tagged : Value :=
  .complexSchema .null .null
    (.objectSchema (.dict [(.str "tags", texts)]) (.bool false) .null) .null .null .null
    (.bool false) (.bool false)

def taggedRecord : Value := .dict [(.str "tags", .list [.str "new", .str "red"])]

theorem strict_tagged : Every Strict tagged := by
  have htag : Every Strict (.str "string") := .intro trivial (by simp [parts])
  have htexts : Every Strict texts := by
    refine .intro ⟨?_, ?_⟩ ?_
    · intro members allowExtraMembers matcher h
      cases h
    · intro options h
      cases h
    · simpa [texts, parts, itemTypes, declarations] using htag
  refine .intro ⟨?_, ?_⟩ ?_
  · intro members allowExtraMembers matcher h
    cases h
    rfl
  · intro options h
    cases h
  · simpa [tagged, parts, itemTypes, declarations, entriesOf?] using htexts

theorem wellKeyed_tagged : WellKeyed tagged := by
  have hnull : WellKeyed .null := .of_flat trivial rfl
  have hfalse : WellKeyed (.bool false) := .of_flat trivial rfl
  have htag : WellKeyed (.str "string") := .of_flat trivial rfl
  have harray : WellKeyed (.arraySchema (.str "string") .null .null .null .null) :=
    .intro trivial (by simp [Value.components, hnull, htag])
  have htexts : WellKeyed texts :=
    .intro trivial (by simp [texts, Value.components, hnull, hfalse, harray])
  have hkeyed : Keyed [(.str "tags", texts)] := by decide
  have hmembers : WellKeyed (.dict [(.str "tags", texts)]) :=
    .intro hkeyed (by simp [Value.components, htexts])
  have hobject : WellKeyed (.objectSchema (.dict [(.str "tags", texts)]) (.bool false) .null) :=
    .intro trivial (by simp [Value.components, hnull, hfalse, hmembers])
  exact .intro trivial (by simp [tagged, Value.components, hnull, hfalse, hobject])

theorem wellKeyed_taggedRecord : WellKeyed taggedRecord := by
  have htext : ∀ s, WellKeyed (.str s) := fun s => .of_flat trivial rfl
  have hlist : WellKeyed (.list [.str "new", .str "red"]) :=
    .intro trivial (by simp [Value.components, htext])
  have hkeyed : Keyed [(.str "tags", .list [.str "new", .str "red"])] := by decide
  exact .intro hkeyed (by simp [taggedRecord, Value.components, hlist])

theorem strict_schema_covers_tagged :
    Every Strict tagged ∧ WellKeyed tagged ∧ WellKeyed taggedRecord ∧
      (validate standard taggedRecord tagged).Passed ∧
      Inside taggedRecord [.key (.str "tags"), .index 1] (.str "red") ∧
      ∃ places part, Corresponds tagged [.key (.str "tags"), .index 1] places part ∧
        (validate standard (.str "red") part).Passed := by
  have hpassed : (validate standard taggedRecord tagged).Passed := by decide +kernel
  have hinside : Inside taggedRecord [.key (.str "tags"), .index 1] (.str "red") :=
    .key rfl (List.mem_singleton.mpr rfl) (.index rfl rfl .here)
  obtain ⟨⟨places, part, hplaces, haccepted, -⟩, -⟩ :=
    strict_schema_covers strict_tagged wellKeyed_tagged wellKeyed_taggedRecord hpassed hinside
  exact ⟨strict_tagged, wellKeyed_tagged, wellKeyed_taggedRecord, hpassed, hinside, places, part,
    hplaces, haccepted⟩

end Conformance.Schema
