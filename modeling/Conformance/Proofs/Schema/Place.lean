import Conformance.Proofs.Schema.Step
import Conformance.Proofs.Value.Equality
import Conformance.Proofs.Value.Position

/-! # Positions of a schema

A schema has a place for its items and one for each declared member. An index into a value belongs
to the place of the items, a key to the place of the member declared under an equal name, so a
position of a value belongs to one position of the schema at most. How many containers are nested
in each other along the places is the nesting of the schema.
-/

namespace Conformance.Schema

open Value (Step Keyed WellKeyed)

inductive Place
  | item
  | member (place : Nat)
  deriving DecidableEq

def itemSchemas : Value → List Value
  | .complexSchema _ array _ _ _ _ _ _ => itemTypes array
  | _ => []

def memberSchemas : Value → Value.Entries
  | .complexSchema _ _ object _ _ _ _ _ => declarations object
  | _ => []

/-- The position of a schema that a position of a value belongs to: an index belongs to the items,
a key to a declared member of an equal name. -/
inductive Corresponds : Value → List Step → List Place → Value → Prop
  | root {schema : Value} : Corresponds schema [] [] schema
  | item {schema part target : Value} {i : Nat} {path : List Step} {places : List Place}
      (hitem : part ∈ itemSchemas schema) (rest : Corresponds part path places target) :
      Corresponds schema (.index i :: path) (.item :: places) target
  | member {schema name declared part target : Value} {place : Nat} {path : List Step}
      {places : List Place} (hmember : (memberSchemas schema)[place]? = some (declared, part))
      (hequal : Value.equal name declared = true) (rest : Corresponds part path places target) :
      Corresponds schema (.key name :: path) (.member place :: places) target

theorem parts_eq_append (schema : Value) :
    parts schema = itemSchemas schema ++ (memberSchemas schema).map (·.2) := by
  cases schema <;> rfl

theorem mem_parts_of_item {schema part : Value} (h : part ∈ itemSchemas schema) :
    part ∈ parts schema := by
  rw [parts_eq_append]
  exact List.mem_append_left _ h

theorem mem_parts_of_member {schema : Value} {d : Value × Value} (h : d ∈ memberSchemas schema) :
    d.2 ∈ parts schema := by
  rw [parts_eq_append]
  exact List.mem_append_right _ (List.mem_map.mpr ⟨d, h, rfl⟩)

theorem item_unique {schema part part' : Value} (h : part ∈ itemSchemas schema)
    (h' : part' ∈ itemSchemas schema) : part = part' := by
  cases schema <;> simp only [itemSchemas, List.not_mem_nil] at h h'
  case complexSchema scalar array object enumeration string number optional nullable =>
    cases array <;> simp only [itemTypes, List.mem_singleton, List.not_mem_nil] at h h'
    rw [h, h']

theorem wellKeyed_entriesOf {members : Value} {known : Value.Entries} (h : WellKeyed members)
    (hknown : entriesOf? members = some known) :
    Keyed known ∧ ∀ d ∈ known, WellKeyed d.2 := by
  cases members <;> simp only [entriesOf?, Option.some.injEq, reduceCtorEq] at hknown
  all_goals
    subst hknown
    exact ⟨h.own, fun d hd => h.inside (List.mem_map.mpr ⟨d, hd, rfl⟩)⟩

theorem wellKeyed_memberSchemas {schema : Value} (h : WellKeyed schema) :
    Keyed (memberSchemas schema) ∧ ∀ d ∈ memberSchemas schema, WellKeyed d.2 := by
  have hempty : Keyed [] ∧ ∀ d ∈ ([] : Value.Entries), WellKeyed d.2 := by
    exact ⟨⟨by simp, .nil⟩, by simp⟩
  cases schema
  case complexSchema scalar array object enumeration string number optional nullable =>
    have hobject : WellKeyed object := h.inside (by simp [Value.components])
    cases object
    case objectSchema members allowExtraMembers matcher =>
      have hmembers : WellKeyed members := hobject.inside (by simp [Value.components])
      simp only [memberSchemas, declarations]
      cases hknown : entriesOf? members with
      | none => exact hempty
      | some known => exact wellKeyed_entriesOf hmembers hknown
    all_goals exact hempty
  all_goals exact hempty

theorem wellKeyed_of_mem_parts {schema part : Value} (h : WellKeyed schema)
    (hpart : part ∈ parts schema) : WellKeyed part := by
  rw [parts_eq_append] at hpart
  rcases List.mem_append.mp hpart with hitem | hmember
  · cases schema <;> simp only [itemSchemas, List.not_mem_nil] at hitem
    case complexSchema scalar array object enumeration string number optional nullable =>
      have harray : WellKeyed array := h.inside (by simp [Value.components])
      cases array <;> simp only [itemTypes, List.mem_singleton, List.not_mem_nil] at hitem
      rw [hitem]
      exact harray.inside (by simp [Value.components])
  · obtain ⟨d, hd, rfl⟩ := List.mem_map.mp hmember
    exact (wellKeyed_memberSchemas h).2 d hd

/-- A position of a value belongs to one position of the schema at most. -/
theorem Corresponds.unique {schema target target' : Value} {path : List Step}
    {places places' : List Place} (hschema : WellKeyed schema)
    (hpath : ∀ name, Step.key name ∈ path → Value.unhashable? name = none)
    (h : Corresponds schema path places target) (h' : Corresponds schema path places' target') :
    places' = places ∧ target' = target := by
  induction h generalizing places' target' with
  | root =>
      cases h'
      exact ⟨rfl, rfl⟩
  | item hitem rest ih =>
      cases h' with
      | item hitem' rest' =>
          cases item_unique hitem hitem'
          have hpart := wellKeyed_of_mem_parts hschema (mem_parts_of_item hitem)
          obtain ⟨hplaces, htarget⟩ := ih hpart
            (fun name hname => hpath name (List.mem_cons_of_mem _ hname)) rest'
          exact ⟨by rw [hplaces], htarget⟩
  | member hmember hequal rest ih =>
      rename_i name declared part target place path places
      cases h' with
      | member hmember' hequal' rest' =>
          rename_i declared' part' place' places'
          have hkeyed := (wellKeyed_memberSchemas hschema).1
          have hname := hpath name List.mem_cons_self
          have hdeclared := hkeyed.1 _ (List.mem_of_getElem? hmember)
          have hsame := Value.equal_trans hdeclared hname
            (Value.equal_symm hname hdeclared hequal) hequal'
          cases hkeyed.place_unique hmember hmember' hsame
          cases hmember.symm.trans hmember'
          have hpart := wellKeyed_of_mem_parts hschema
            (mem_parts_of_member (List.mem_of_getElem? hmember))
          obtain ⟨hplaces, htarget⟩ := ih hpart
            (fun name hname => hpath name (List.mem_cons_of_mem _ hname)) rest'
          exact ⟨by rw [hplaces], htarget⟩

/-! ## Nesting -/

def opens : Value → Bool
  | .complexSchema _ array object _ _ _ _ _ => !array.isNull || !object.isNull
  | _ => false

/-- How many containers a schema nests in each other. -/
def nesting (schema : Value) : Nat :=
  if opens schema then
    ((parts schema).attach.map fun part => nesting part.1).foldr max 0 + 1
  else 0
termination_by sizeOf schema
decreasing_by exact sizeOf_lt_of_mem_parts part.2

theorem opens_of_mem_parts {schema part : Value} (h : part ∈ parts schema) :
    opens schema = true := by
  cases schema <;> simp only [parts, List.not_mem_nil] at h
  case complexSchema scalar array object enumeration string number optional nullable =>
    rcases List.mem_append.mp h with hitem | hmember
    · cases array <;> simp only [itemTypes, List.not_mem_nil] at hitem
      simp [opens, Value.isNull]
    · cases object <;> simp only [declarations, List.map_nil, List.not_mem_nil] at hmember
      simp [opens, Value.isNull]

theorem le_foldr_max {n : Nat} {ns : List Nat} (h : n ∈ ns) : n ≤ ns.foldr max 0 := by
  induction ns with
  | nil => simp at h
  | cons m ns ih =>
      rw [List.foldr_cons]
      rcases List.mem_cons.mp h with rfl | h
      · exact Nat.le_max_left _ _
      · exact Nat.le_trans (ih h) (Nat.le_max_right _ _)

theorem nesting_pos {schema : Value} (h : opens schema = true) : 0 < nesting schema := by
  rw [nesting, if_pos h]
  exact Nat.succ_pos _

theorem nesting_lt_of_mem_parts {schema part : Value} (h : part ∈ parts schema) :
    nesting part < nesting schema := by
  have hle : nesting part ≤
      ((parts schema).attach.map fun part => nesting part.1).foldr max 0 :=
    le_foldr_max (List.mem_map.mpr ⟨⟨part, h⟩, List.mem_attach _ _, rfl⟩)
  rw [nesting.eq_def schema, if_pos (opens_of_mem_parts h)]
  omega

/-- Each step to a corresponding position leaves less nesting. -/
theorem Corresponds.length_add_nesting_le {schema target : Value} {path : List Step}
    {places : List Place} (h : Corresponds schema path places target) :
    path.length + nesting target ≤ nesting schema := by
  induction h with
  | root => simp
  | item hitem rest ih =>
      have hlt := nesting_lt_of_mem_parts (mem_parts_of_item hitem)
      rw [List.length_cons]
      omega
  | member hmember hequal rest ih =>
      have hlt := nesting_lt_of_mem_parts (mem_parts_of_member (List.mem_of_getElem? hmember))
      dsimp only at hlt
      rw [List.length_cons]
      omega

end Conformance.Schema
