import Conformance.Proofs.Schema.Place
import Conformance.Proofs.Schema.Trace
import Mathlib.Data.List.Basic

/-! # What validation looks at

Each pair of the trace of a validation stands at a position of the value and one of the schema: an
index leads to an item and to the schema of the items, a declared name to what the record has for
it, also when that is nothing, and to the schema of the member. No two pairs stand at the same
positions.
-/

namespace Conformance.Schema

open Value (Step)

/-- What stands at a position of a value, with the schema at the position that belongs to it. -/
inductive Reached : Value → Value → List Step → List Place → Value → Value → Prop
  | here {value schema : Value} : Reached value schema [] [] value schema
  | item {value schema item part target goal : Value} {items : List Value} {i : Nat}
      {path : List Step} {places : List Place} (hitems : value.items? = some items)
      (hitem : items[i]? = some item) (hpart : part ∈ itemSchemas schema)
      (rest : Reached item part path places target goal) :
      Reached value schema (.index i :: path) (.item :: places) target goal
  | member {value schema name part target goal : Value} {entries : Value.Entries} {place : Nat}
      {path : List Step} {places : List Place} (hentries : value.entries? = some entries)
      (hpart : (memberSchemas schema)[place]? = some (name, part))
      (rest : Reached (memberValue entries name) part path places target goal) :
      Reached value schema (.key name :: path) (.member place :: places) target goal

/-- What holds of a schema and all schemas nested in it holds of those that are reached. -/
theorem Reached.every {property : Value → Prop} {value schema target goal : Value}
    {path : List Step} {places : List Place}
    (h : Reached value schema path places target goal) (hschema : Every property schema) :
    Every property goal := by
  induction h with
  | here => exact hschema
  | item hitems hitem hpart rest ih => exact ih (hschema.part (mem_parts_of_item hpart))
  | member hentries hpart rest ih =>
      exact ih (hschema.part (mem_parts_of_member (List.mem_of_getElem? hpart)))

/-- A child of a pair, with the steps that lead to it. -/
structure Branch where
  step : Step
  place : Place
  value : Value
  schema : Value

def itemBranches (value schema : Value) : List Branch :=
  (itemSchemas schema).flatMap fun part =>
    (value.items?.getD []).zipIdx.map fun (item, i) => ⟨.index i, .item, item, part⟩

def memberBranches (value schema : Value) : List Branch :=
  match value.entries? with
  | some entries =>
    (memberSchemas schema).zipIdx.map fun ((name, part), place) =>
      ⟨.key name, .member place, memberValue entries name, part⟩
  | none => []

def branches (value schema : Value) : List Branch :=
  if value.isNull || value.isMissing then []
  else
    match aggregation schema with
    | .ok .array => itemBranches value schema
    | .ok .object => memberBranches value schema
    | _ => []

theorem map_itemBranches (value schema : Value) :
    (itemBranches value schema).map (fun b => (b.value, b.schema)) =
      (itemSchemas schema).flatMap fun part => (value.items?.getD []).map (·, part) := by
  rw [itemBranches, List.map_flatMap]
  congr 1
  funext part
  calc ((value.items?.getD []).zipIdx.map fun (item, i) =>
          (⟨.index i, .item, item, part⟩ : Branch)).map (fun b => (b.value, b.schema))
      = ((value.items?.getD []).zipIdx.map Prod.fst).map (·, part) := by
        rw [List.map_map, List.map_map]
        rfl
    _ = (value.items?.getD []).map (·, part) := by rw [List.zipIdx_map_fst]

theorem map_memberBranches {value : Value} {entries : Value.Entries}
    (h : value.entries? = some entries) (schema : Value) :
    (memberBranches value schema).map (fun b => (b.value, b.schema)) =
      (memberSchemas schema).map fun (name, part) => (memberValue entries name, part) := by
  rw [memberBranches, h]
  calc ((memberSchemas schema).zipIdx.map fun ((name, part), place) =>
          (⟨.key name, .member place, memberValue entries name, part⟩ : Branch)).map
          (fun b => (b.value, b.schema))
      = ((memberSchemas schema).zipIdx.map Prod.fst).map
          fun (name, part) => (memberValue entries name, part) := by
        rw [List.map_map, List.map_map]
        rfl
    _ = (memberSchemas schema).map fun (name, part) => (memberValue entries name, part) := by
        rw [List.zipIdx_map_fst]

theorem map_branches (value schema : Value) :
    (branches value schema).map (fun b => (b.value, b.schema)) = children value schema := by
  cases schema
  case complexSchema scalar array object enumeration string number optional nullable =>
    rw [branches, children]
    split
    · rfl
    · cases aggregation
          (.complexSchema scalar array object enumeration string number optional nullable) with
      | error fault => rfl
      | ok kind =>
          cases kind with
          | array => exact map_itemBranches value _
          | object =>
              cases hentries : value.entries? with
              | none => simp [memberBranches, hentries]
              | some entries => exact map_memberBranches hentries _
          | scalar => rfl
          | enumeration => rfl
  all_goals simp [branches, children, aggregation, violated]

theorem mem_parts_of_mem_branches {value schema : Value} {b : Branch}
    (h : b ∈ branches value schema) : b.schema ∈ parts schema := by
  have hchild : (b.value, b.schema) ∈ children value schema := by
    rw [← map_branches]
    exact List.mem_map.mpr ⟨b, h, rfl⟩
  exact mem_parts_of_mem_children hchild

/-- A branch is one step, after which it reaches what its own value and schema reach. -/
theorem Reached.of_branch {value schema target goal : Value} {path : List Step}
    {places : List Place} {b : Branch} (hb : b ∈ branches value schema)
    (h : Reached b.value b.schema path places target goal) :
    Reached value schema (b.step :: path) (b.place :: places) target goal := by
  unfold branches at hb
  split at hb
  · cases hb
  · split at hb
    · obtain ⟨part, hpart, hb⟩ := List.mem_flatMap.mp hb
      obtain ⟨⟨item, i⟩, hitem, rfl⟩ := List.mem_map.mp hb
      cases hitems : value.items? with
      | none => simp [hitems] at hitem
      | some items =>
          rw [hitems, Option.getD_some, List.mk_mem_zipIdx_iff_getElem?] at hitem
          exact .item hitems hitem hpart h
    · unfold memberBranches at hb
      split at hb
      · next entries hentries =>
          obtain ⟨⟨⟨name, part⟩, place⟩, hpart, rfl⟩ := List.mem_map.mp hb
          rw [List.mk_mem_zipIdx_iff_getElem?] at hpart
          exact .member hentries hpart h
      · cases hb
    · cases hb

/-! ## Distinct positions -/

theorem zipIdx_pairwise {α : Type} (xs : List α) :
    xs.zipIdx.Pairwise fun x y => x.2 ≠ y.2 := by
  rw [← List.pairwise_map, List.zipIdx_map_snd]
  exact List.nodup_range'

theorem itemSchemas_cases (schema : Value) :
    itemSchemas schema = [] ∨ ∃ part, itemSchemas schema = [part] := by
  cases schema <;> try exact .inl rfl
  case complexSchema scalar array object enumeration string number optional nullable =>
    cases array <;> first | exact .inl rfl | exact .inr ⟨_, rfl⟩

theorem itemBranches_pairwise (value schema : Value) :
    (itemBranches value schema).Pairwise fun a b => a.step ≠ b.step := by
  rcases itemSchemas_cases schema with h | ⟨part, h⟩
  · simp [itemBranches, h]
  · rw [itemBranches, h, List.flatMap_singleton, List.pairwise_map]
    apply (zipIdx_pairwise _).imp
    intro x y hne heq
    exact hne (Step.index.inj heq)

theorem memberBranches_pairwise (value schema : Value) :
    (memberBranches value schema).Pairwise fun a b => a.place ≠ b.place := by
  unfold memberBranches
  split
  · rw [List.pairwise_map]
    apply (zipIdx_pairwise _).imp
    intro x y hne heq
    exact hne (Place.member.inj heq)
  · exact .nil

/-- No two children are reached by the same steps. -/
theorem branches_pairwise (value schema : Value) :
    (branches value schema).Pairwise fun a b => a.step ≠ b.step ∨ a.place ≠ b.place := by
  unfold branches
  split
  · exact .nil
  · split
    · exact (itemBranches_pairwise value schema).imp .inl
    · exact (memberBranches_pairwise value schema).imp .inr
    · exact .nil

/-! ## Visits -/

/-- A pair of the trace of a validation, with its positions. -/
structure Visit where
  path : List Step
  places : List Place
  value : Value
  schema : Value

def Visit.position (visit : Visit) : List Step × List Place := (visit.path, visit.places)

def Visit.pair (visit : Visit) : Value × Value := (visit.value, visit.schema)

/-- A visit from a child, as one from its parent. -/
def Branch.extend (b : Branch) (visit : Visit) : Visit :=
  ⟨b.step :: visit.path, b.place :: visit.places, visit.value, visit.schema⟩

/-- The trace of a validation with the positions of each pair. -/
def visits (value schema : Value) : List Visit :=
  ⟨[], [], value, schema⟩ ::
    (branches value schema).attach.flatMap fun b =>
      (visits b.1.value b.1.schema).map b.1.extend
termination_by sizeOf schema
decreasing_by exact sizeOf_lt_of_mem_parts (mem_parts_of_mem_branches b.2)

theorem visits_eq_cons (value schema : Value) :
    visits value schema =
      ⟨[], [], value, schema⟩ ::
        (branches value schema).flatMap fun b => (visits b.value b.schema).map b.extend := by
  have hmap := List.flatMap_map Subtype.val
    (fun b : Branch => (visits b.value b.schema).map b.extend) (branches value schema).attach
  rw [List.attach_map_subtype_val] at hmap
  rw [visits, hmap]

theorem map_visits (value schema : Value) :
    (visits value schema).map Visit.pair = trace value schema := by
  induction schema using induction_on_parts generalizing value with
  | step schema ih =>
      have hbranch : ∀ b ∈ branches value schema,
          ((visits b.value b.schema).map b.extend).map Visit.pair =
            trace b.value b.schema := by
        intro b hb
        rw [List.map_map, ← ih b.schema (mem_parts_of_mem_branches hb) b.value]
        rfl
      rw [visits_eq_cons, trace_eq_cons, List.map_cons, List.map_flatMap, ← map_branches,
        List.flatMap_map, List.flatMap_congr hbranch]
      rfl

theorem reached_of_mem_visits {value schema : Value} {visit : Visit}
    (h : visit ∈ visits value schema) :
    Reached value schema visit.path visit.places visit.value visit.schema := by
  induction schema using induction_on_parts generalizing value visit with
  | step schema ih =>
      rw [visits_eq_cons] at h
      rcases List.mem_cons.mp h with rfl | h
      · exact .here
      · obtain ⟨b, hb, h⟩ := List.mem_flatMap.mp h
        obtain ⟨inner, hinner, rfl⟩ := List.mem_map.mp h
        have hrest := ih b.schema (mem_parts_of_mem_branches hb) hinner
        exact hrest.of_branch hb

/-- No two pairs of the trace of a validation stand at the same positions. -/
theorem visits_pairwise (value schema : Value) :
    (visits value schema).Pairwise fun a b => a.position ≠ b.position := by
  induction schema using induction_on_parts generalizing value with
  | step schema ih =>
      rw [visits_eq_cons, List.pairwise_cons, List.pairwise_flatMap]
      -- The root takes no step, visits within a child share the first one, and those of different
      -- children differ in it.
      refine ⟨?_, ?_, ?_⟩
      · intro visit h
        obtain ⟨b, -, h⟩ := List.mem_flatMap.mp h
        obtain ⟨inner, -, rfl⟩ := List.mem_map.mp h
        simp [Visit.position, Branch.extend]
      · intro b hb
        rw [List.pairwise_map]
        apply (ih b.schema (mem_parts_of_mem_branches hb) b.value).imp
        intro x y hne heq
        apply hne
        simpa [Visit.position, Branch.extend] using heq
      · apply (branches_pairwise value schema).imp
        intro a b hne x hx y hy heq
        obtain ⟨inner, -, rfl⟩ := List.mem_map.mp hx
        obtain ⟨inner', -, rfl⟩ := List.mem_map.mp hy
        simp only [Visit.position, Branch.extend, Prod.mk.injEq, List.cons.injEq] at heq
        rcases hne with hstep | hplace
        · exact hstep heq.1.1
        · exact hplace heq.2.1

end Conformance.Schema
