import Conformance.Proofs.Value.Keys

/-! # Positions inside a value

A position is reached by steps, each to an item of a sequence or to the value under a key of a
mapping, whatever the type of the sequence or mapping. A value that contains itself has positions
of every length.
-/

namespace Conformance.Value

inductive Step
  | index (i : Nat)
  | key (name : Value)

/-- The items that an index leads to. -/
def sequence? (value : Value) : Option (List Value) :=
  match value.layer with
  | .list items | .listSubtype items | .tuple items => some items
  | _ => none

/-- The entries that a key leads to. -/
def mapping? (value : Value) : Option Entries :=
  match value.layer with
  | .dict entries | .orderedDict entries => some entries
  | _ => none

def isContainer (value : Value) : Bool := value.sequence?.isSome || value.mapping?.isSome

/-- The value at a position inside a value. -/
inductive Inside : Value → List Step → Value → Prop
  | here {value : Value} : Inside value [] value
  | index {value item target : Value} {items : List Value} {i : Nat} {path : List Step}
      (hitems : value.sequence? = some items) (hitem : items[i]? = some item)
      (rest : Inside item path target) : Inside value (.index i :: path) target
  | key {value name member target : Value} {entries : Entries} {path : List Step}
      (hentries : value.mapping? = some entries) (hmember : (name, member) ∈ entries)
      (rest : Inside member path target) : Inside value (.key name :: path) target

/-! ## One type of container excludes the others -/

theorem sequence?_of_items {value : Value} {items : List Value} (h : value.items? = some items) :
    value.sequence? = some items ∧ value.mapping? = none := by
  unfold items? at h
  unfold sequence? mapping?
  split at h <;> cases h
  all_goals
    next heq =>
      rw [heq]
      exact ⟨rfl, rfl⟩

theorem mapping?_of_entries {value : Value} {entries : Entries}
    (h : value.entries? = some entries) :
    value.mapping? = some entries ∧ value.sequence? = none := by
  unfold entries? at h
  unfold sequence? mapping?
  split at h <;> cases h
  next heq =>
    rw [heq]
    exact ⟨rfl, rfl⟩

theorem WellKeyed.of_sequence {value : Value} {items : List Value} (h : WellKeyed value)
    (hitems : value.sequence? = some items) : ∀ item ∈ items, WellKeyed item := by
  have hlayer := h.layer
  unfold sequence? at hitems
  split at hitems <;> cases hitems
  all_goals
    next heq =>
      rw [heq] at hlayer
      exact fun item hitem => hlayer.inside hitem

theorem WellKeyed.of_mapping {value : Value} {entries : Entries} (h : WellKeyed value)
    (hentries : value.mapping? = some entries) :
    Keyed entries ∧ ∀ e ∈ entries, WellKeyed e.2 := by
  have hlayer := h.layer
  unfold mapping? at hentries
  split at hentries <;> cases hentries
  all_goals
    next heq =>
      rw [heq] at hlayer
      exact ⟨hlayer.own, fun e he => hlayer.inside (List.mem_map.mpr ⟨e, he, rfl⟩)⟩

theorem hashable_of_mem_path {value target : Value} {path : List Step}
    (h : Inside value path target) (hvalue : WellKeyed value) :
    ∀ name, Step.key name ∈ path → unhashable? name = none := by
  induction h with
  | here => simp
  | index hitems hitem rest ih =>
      intro name hname
      rcases List.mem_cons.mp hname with hname | hname
      · cases hname
      · exact ih (hvalue.of_sequence hitems _ (List.mem_of_getElem? hitem)) name hname
  | key hentries hmember rest ih =>
      intro name hname
      obtain ⟨⟨hhashable, -⟩, hmembers⟩ := hvalue.of_mapping hentries
      rcases List.mem_cons.mp hname with hname | hname
      · cases hname
        exact hhashable _ hmember
      · exact ih (hmembers _ hmember) name hname

end Conformance.Value
