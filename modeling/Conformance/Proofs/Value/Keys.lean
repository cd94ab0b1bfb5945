import Conformance.Value.Operations

/-! # Well-keyed values

A record looks its entries up by key, so its keys have to be hashable and no two of them equal.
Storing an entry keeps this, and it is handed on to the values inside, also through the layers of a
recursive value.
-/

namespace Conformance.Value

/-- The keys of a record: each hashable, no two equal. -/
def Keyed (entries : Entries) : Prop :=
  (∀ e ∈ entries, unhashable? e.1 = none) ∧
    entries.Pairwise fun a b => equal a.1 b.1 = false

instance (entries : Entries) : Decidable (Keyed entries) :=
  inferInstanceAs (Decidable (_ ∧ _))

/-- The values directly inside a value. Inside a recursive one are the entries of its heap. -/
def components : Value → List Value
  | .list items | .listSubtype items | .tuple items | .set items => items
  | .dict entries | .orderedDict entries => entries.map (·.2)
  | .predicate _ _ _ argument => [argument]
  | .complexSchema scalar array object enumeration string number optional nullable =>
    [scalar, array, object, enumeration, string, number, optional, nullable]
  | .arraySchema itemType length minLength maxLength matcher =>
    [itemType, length, minLength, maxLength, matcher]
  | .objectSchema members allowExtraMembers matcher => [members, allowExtraMembers, matcher]
  | .stringSchema matcher => [matcher]
  | .numberSchema value min max isInteger epsilon => [value, min, max, isInteger, epsilon]
  | .attributes named => named.map (·.2)
  | .recursive heap _ => heap
  | _ => []

def OwnKeyed : Value → Prop
  | .dict entries | .orderedDict entries => Keyed entries
  | _ => True

/-- Every record in a value, at any depth, is well-keyed. -/
inductive WellKeyed : Value → Prop
  | intro {value : Value} (own : OwnKeyed value)
      (inside : ∀ component ∈ components value, WellKeyed component) : WellKeyed value

theorem WellKeyed.own {value : Value} (h : WellKeyed value) : OwnKeyed value := by
  cases h with
  | intro own inside => exact own

theorem WellKeyed.inside {value component : Value} (h : WellKeyed value)
    (hmem : component ∈ components value) : WellKeyed component := by
  cases h with
  | intro own inside => exact inside component hmem

/-- A value with nothing inside it and no keys. -/
theorem WellKeyed.of_flat {value : Value} (hown : OwnKeyed value) (hinside : components value = []) :
    WellKeyed value :=
  .intro hown (by simp [hinside])

/-! ## Storing -/

theorem mem_keys_store {entries : Entries} {key value : Value} {e : Value × Value}
    (h : e ∈ store entries key value) : e.1 = key ∨ ∃ e' ∈ entries, e'.1 = e.1 := by
  induction entries with
  | nil =>
      left
      simp only [store, List.mem_singleton] at h
      rw [h]
  | cons first entries ih =>
      obtain ⟨k, v⟩ := first
      rw [store] at h
      split at h
      · right
        rcases List.mem_cons.mp h with rfl | h
        · exact ⟨(k, v), List.mem_cons_self, rfl⟩
        · exact ⟨e, List.mem_cons_of_mem _ h, rfl⟩
      · rcases List.mem_cons.mp h with rfl | h
        · exact .inr ⟨(k, v), List.mem_cons_self, rfl⟩
        · rcases ih h with hkey | ⟨e', hmem, hkey⟩
          · exact .inl hkey
          · exact .inr ⟨e', List.mem_cons_of_mem _ hmem, hkey⟩

theorem Keyed.store {entries : Entries} {key : Value} (h : Keyed entries)
    (hkey : unhashable? key = none) (value : Value) : Keyed (store entries key value) := by
  constructor
  · intro e he
    rcases mem_keys_store he with hsame | ⟨e', hmem, hsame⟩
    · rw [hsame]
      exact hkey
    · rw [← hsame]
      exact h.1 e' hmem
  · have hdistinct := h.2
    clear h
    induction entries with
    | nil => simp [Value.store]
    | cons first entries ih =>
        obtain ⟨k, v⟩ := first
        obtain ⟨hfirst, hrest⟩ := List.pairwise_cons.mp hdistinct
        rw [Value.store]
        split
        · exact List.pairwise_cons.mpr ⟨hfirst, hrest⟩
        · next hne =>
            refine List.pairwise_cons.mpr ⟨?_, ih hrest⟩
            intro e he
            rcases mem_keys_store he with hsame | ⟨e', hmem, hsame⟩
            · simpa [hsame] using hne
            · simpa [hsame] using hfirst e' hmem

theorem store_of_absent {entries : Entries} {key : Value}
    (h : ∀ e ∈ entries, equal e.1 key = false) (value : Value) :
    Value.store entries key value = entries ++ [(key, value)] := by
  induction entries with
  | nil => rfl
  | cons first entries ih =>
      obtain ⟨k, v⟩ := first
      obtain ⟨hfirst, hrest⟩ := List.forall_mem_cons.1 h
      rw [Value.store, if_neg (by simpa using hfirst), ih hrest, List.cons_append]

/-- Entries with distinct keys are the record that results from storing them. -/
theorem ofPairs_of_pairwise {entries : Entries}
    (h : entries.Pairwise fun a b => equal a.1 b.1 = false) : ofPairs entries = entries := by
  have hfold : ∀ (before after : Entries),
      (before ++ after).Pairwise (fun a b => equal a.1 b.1 = false) →
        after.foldl (fun entries e => Value.store entries e.1 e.2) before = before ++ after := by
    intro before after
    induction after generalizing before with
    | nil => simp
    | cons e after ih =>
        intro hdistinct
        have habsent : ∀ e' ∈ before, equal e'.1 e.1 = false := fun e' he' =>
          (List.pairwise_append.1 hdistinct).2.2 e' he' e List.mem_cons_self
        rw [List.foldl_cons, store_of_absent habsent, ih, List.append_assoc,
          List.singleton_append]
        rwa [List.append_assoc, List.singleton_append]
  exact hfold [] entries h

/-! ## Layers -/

theorem WellKeyed.attach {heap : List Value} (hheap : ∀ value ∈ heap, WellKeyed value)
    {value : Value} (h : WellKeyed value) : WellKeyed (attach heap value) := by
  cases value
  case link entry => exact .intro trivial hheap
  all_goals exact h

theorem keyed_map_values {entries : Entries} (f : Value → Value) (h : Keyed entries) :
    Keyed (entries.map fun e => (e.1, f e.2)) := by
  constructor
  · intro e he
    obtain ⟨e', hmem, rfl⟩ := List.mem_map.mp he
    exact h.1 e' hmem
  · exact List.pairwise_map.mpr h.2

theorem find?_map_values (f : Value → Value) (entries : Entries) (key : Value) :
    find? (entries.map fun e => (e.1, f e.2)) key = (find? entries key).map f := by
  induction entries with
  | nil => rfl
  | cons e entries ih =>
      simp only [find?, List.map_cons, List.find?_cons] at ih ⊢
      cases equal key e.1 with
      | true => rfl
      | false => exact ih

theorem WellKeyed.layer {value : Value} (h : WellKeyed value) : WellKeyed value.layer := by
  cases value
  case recursive heap entry =>
    have hheap : ∀ node ∈ heap, WellKeyed node := fun node hmem => h.inside hmem
    simp only [Value.layer]
    cases hnode : heap[entry]? with
    | none => exact .of_flat trivial rfl
    | some node =>
        have hkeyed := hheap node (List.mem_of_getElem? hnode)
        cases node
        case list items =>
          refine .intro trivial fun component hmem => ?_
          obtain ⟨item, hitem, rfl⟩ := List.mem_map.mp hmem
          exact (hkeyed.inside hitem).attach hheap
        case tuple items =>
          refine .intro trivial fun component hmem => ?_
          obtain ⟨item, hitem, rfl⟩ := List.mem_map.mp hmem
          exact (hkeyed.inside hitem).attach hheap
        case dict entries =>
          refine .intro (keyed_map_values _ hkeyed.own) fun component hmem => ?_
          simp only [components, List.map_map, List.mem_map] at hmem
          obtain ⟨e, he, rfl⟩ := hmem
          exact (hkeyed.inside (List.mem_map.mpr ⟨e, he, rfl⟩)).attach hheap
        all_goals exact hkeyed
  all_goals exact h

end Conformance.Value
