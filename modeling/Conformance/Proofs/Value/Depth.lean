import Conformance.Proofs.Value.Equivalence
import Mathlib.Data.ENat.Lattice

/-! # How deep a value is

Containers are nested in each other, without an end in a value that contains itself. Cut off at a
depth, a value has empty containers there and is finite. A comparison with a value of no greater
depth does not reach what is cut off. The layers of a recursive value do end it nowhere if every
entry of its heap that is led to leads on, which is what makes it recursive.
-/

namespace Conformance.Value

/-- A container with others in place of the values it holds. The keys of a record stay. -/
def mapHeld (f : Value → Value) : Value → Value
  | .list items => .list (items.map f)
  | .listSubtype items => .listSubtype (items.map f)
  | .tuple items => .tuple (items.map f)
  | .set items => .set (items.map f)
  | .dict entries => .dict (entries.map fun e => (e.1, f e.2))
  | .orderedDict entries => .orderedDict (entries.map fun e => (e.1, f e.2))
  | value => value

def emptied : Value → Value
  | .list _ => .list []
  | .listSubtype _ => .listSubtype []
  | .tuple _ => .tuple []
  | .set _ => .set []
  | .dict _ => .dict []
  | .orderedDict _ => .orderedDict []
  | value => value

def held : Value → List Value
  | .list items | .listSubtype items | .tuple items | .set items => items
  | .dict entries | .orderedDict entries => entries.map (·.2)
  | _ => []

def isRecursive : Value → Bool
  | .recursive _ _ => true
  | _ => false

/-- A value with empty containers in place of those at a depth. -/
def truncate : Nat → Value → Value
  | 0, value => value.layer.emptied
  | depth + 1, value => value.layer.mapHeld (truncate depth)

mutual

/-- How many containers are nested in each other. A recursive value has no end. -/
noncomputable def depth (value : Value) : ℕ∞ :=
  match value with
  | .list items | .listSubtype items | .tuple items | .set items => depthOfItems items + 1
  | .dict entries | .orderedDict entries => depthOfEntries entries + 1
  | .recursive _ _ => ⊤
  | _ => 0
termination_by structural value

noncomputable def depthOfItems (items : List Value) : ℕ∞ :=
  match items with
  | [] => 0
  | item :: rest => max (depth item) (depthOfItems rest)
termination_by structural items

noncomputable def depthOfEntries (entries : List (Value × Value)) : ℕ∞ :=
  match entries with
  | [] => 0
  | (_, value) :: rest => max (depth value) (depthOfEntries rest)
termination_by structural entries

end

theorem depth_le_of_mem_items {items : List Value} {item : Value} (h : item ∈ items) :
    depth item ≤ depthOfItems items := by
  induction items with
  | nil => cases h
  | cons first rest ih =>
      rw [depthOfItems]
      rcases List.mem_cons.1 h with rfl | h
      · exact le_max_left _ _
      · exact (ih h).trans (le_max_right _ _)

theorem depthOfEntries_eq (entries : Entries) :
    depthOfEntries entries = depthOfItems (entries.map (·.2)) := by
  induction entries with
  | nil => rfl
  | cons first rest ih =>
      obtain ⟨key, value⟩ := first
      rw [depthOfEntries, List.map_cons, depthOfItems, ih]

theorem depth_eq_of_mem_held {value inner : Value} (h : inner ∈ held value) :
    depth value = depthOfItems (held value) + 1 := by
  cases value <;> simp only [held, List.not_mem_nil] at h
  case dict entries => rw [depth, depthOfEntries_eq, held]
  case orderedDict entries => rw [depth, depthOfEntries_eq, held]
  all_goals rw [depth, held]

/-- What a value holds is less deep. -/
theorem depth_add_one_le_of_mem_held {value inner : Value} (h : inner ∈ held value) :
    depth inner + 1 ≤ depth value := by
  rw [depth_eq_of_mem_held h]
  exact add_le_add_left (depth_le_of_mem_items h) 1

theorem depth_le_of_mem_held {value inner : Value} {n : Nat} (h : inner ∈ held value)
    (hdepth : depth value ≤ (n + 1 : Nat)) : depth inner ≤ n := by
  have hle := (depth_add_one_le_of_mem_held h).trans hdepth
  rw [Nat.cast_add, Nat.cast_one] at hle
  exact (ENat.add_le_add_iff_right ENat.one_ne_top).1 hle

theorem depthOfItems_le {items : List Value} {n : ℕ∞} (h : ∀ item ∈ items, depth item ≤ n) :
    depthOfItems items ≤ n := by
  induction items with
  | nil => exact zero_le
  | cons first rest ih =>
      obtain ⟨hfirst, hrest⟩ := List.forall_mem_cons.1 h
      exact max_le hfirst (ih hrest)

theorem depth_le_of_held {value : Value} {n : ℕ∞} (hrecursive : isRecursive value = false)
    (h : ∀ inner ∈ held value, depth inner ≤ n) : depth value ≤ n + 1 := by
  cases value <;> cases hrecursive
  case dict entries =>
    rw [depth, depthOfEntries_eq]
    exact add_le_add_left (depthOfItems_le h) 1
  case orderedDict entries =>
    rw [depth, depthOfEntries_eq]
    exact add_le_add_left (depthOfItems_le h) 1
  all_goals first | exact zero_le | exact add_le_add_left (depthOfItems_le h) 1

/-! ## Links -/

def link? : Value → Option Nat
  | .link entry => some entry
  | _ => none

theorem link?_eq_some_iff {value : Value} {entry : Nat} :
    link? value = some entry ↔ value = .link entry := by
  cases value <;> simp [link?]

/-- An entry of a heap whose links are attached when it is opened. -/
def isLinkable : Value → Bool
  | .list _ | .tuple _ | .dict _ => true
  | _ => false

/-- The entries that an entry of a heap leads to. -/
def links (node : Value) : List Nat :=
  if isLinkable node then (held node).filterMap link? else []

theorem mem_links {node : Value} {entry : Nat} :
    entry ∈ links node ↔ isLinkable node = true ∧ .link entry ∈ held node := by
  unfold links
  split <;> simp [link?_eq_some_iff, *]

/-- In a recursive value every entry that is led to leads on. -/
def LeadsOn : Value → Prop
  | .recursive heap entry =>
    ∀ place, (place = entry ∨ ∃ node ∈ heap, place ∈ links node) →
      ∃ node, heap[place]? = some node ∧ links node ≠ []
  | _ => True

/-- Every recursive value inside a value is one without an end. -/
inductive WellLinked : Value → Prop
  | intro {value : Value} (own : LeadsOn value)
      (inside : ∀ component ∈ components value, WellLinked component) : WellLinked value

theorem WellLinked.own {value : Value} (h : WellLinked value) : LeadsOn value := by
  cases h with
  | intro own inside => exact own

theorem WellLinked.inside {value component : Value} (h : WellLinked value)
    (hmem : component ∈ components value) : WellLinked component := by
  cases h with
  | intro own inside => exact inside component hmem

theorem WellLinked.of_mem_held {value inner : Value} (h : WellLinked value)
    (hmem : inner ∈ held value) : WellLinked inner := by
  refine h.inside ?_
  cases value <;> first | exact hmem | cases hmem

theorem layer_of_linkable {heap : List Value} {entry : Nat} {node : Value}
    (hnode : heap[entry]? = some node) (hlinkable : isLinkable node = true) :
    layer (.recursive heap entry) = mapHeld (attach heap) node := by
  simp only [layer, hnode]
  cases node <;> first | rfl | cases hlinkable

theorem held_mapHeld (f : Value → Value) (value : Value) :
    held (mapHeld f value) = (held value).map f := by
  cases value <;> simp [held, mapHeld]

/-- The entry at which a recursive value is opened leads on. -/
theorem WellLinked.exists_node {heap : List Value} {entry : Nat}
    (h : WellLinked (.recursive heap entry)) :
    ∃ node place, node ∈ heap ∧ isLinkable node = true ∧ .link place ∈ held node ∧
      heap[entry]? = some node ∧
      Value.layer (.recursive heap entry) = mapHeld (Value.attach heap) node := by
  obtain ⟨node, hnode, hlinks⟩ := h.own entry (.inl rfl)
  obtain ⟨place, hplace⟩ := List.exists_mem_of_ne_nil _ hlinks
  obtain ⟨hlinkable, hheld⟩ := mem_links.1 hplace
  exact ⟨node, place, List.mem_of_getElem? hnode, hlinkable, hheld, hnode,
    layer_of_linkable hnode hlinkable⟩

theorem WellLinked.attach {heap : List Value} {entry : Nat} (h : WellLinked (.recursive heap entry))
    {node inner : Value} (hnode : node ∈ heap) (hlinkable : isLinkable node = true)
    (hinner : inner ∈ held node) : WellLinked (attach heap inner) := by
  have hinside : ∀ component ∈ heap, WellLinked component := fun component hmem => h.inside hmem
  cases inner
  case link place =>
    refine .intro (fun other hother => ?_) hinside
    refine h.own other (.inr ?_)
    rcases hother with rfl | hother
    · exact ⟨node, hnode, mem_links.2 ⟨hlinkable, hinner⟩⟩
    · exact hother
  all_goals exact (hinside node hnode).of_mem_held hinner

/-- Opening a value keeps it well-linked and leaves nothing to be opened. -/
theorem WellLinked.layer {value : Value} (h : WellLinked value) :
    isRecursive value.layer = false ∧ ∀ inner ∈ held value.layer, WellLinked inner := by
  cases value
  case recursive heap entry =>
    obtain ⟨node, -, hmem, hlinkable, -, -, hlayer⟩ := h.exists_node
    rw [hlayer, held_mapHeld]
    constructor
    · cases node <;> first | rfl | cases hlinkable
    · intro inner hinner
      obtain ⟨member, hmember, rfl⟩ := List.mem_map.1 hinner
      exact h.attach hmem hlinkable hmember
  all_goals exact ⟨rfl, fun inner hinner => h.of_mem_held hinner⟩

/-- A layer of a recursive value holds a recursive value again. -/
theorem WellLinked.exists_recursive {heap : List Value} {entry : Nat}
    (h : WellLinked (.recursive heap entry)) :
    ∃ inner ∈ held (Value.layer (.recursive heap entry)), isRecursive inner = true := by
  obtain ⟨node, place, -, -, hheld, -, hlayer⟩ := h.exists_node
  refine ⟨.recursive heap place, ?_, rfl⟩
  rw [hlayer, held_mapHeld]
  exact List.mem_map.2 ⟨.link place, hheld, rfl⟩

theorem isRecursive_mapHeld {f : Value → Value} {value : Value}
    (h : isRecursive value = false) : isRecursive (mapHeld f value) = false := by
  cases value <;> first | rfl | cases h

theorem isRecursive_emptied {value : Value} (h : isRecursive value = false) :
    isRecursive value.emptied = false := by
  cases value <;> first | rfl | cases h

theorem held_emptied (value : Value) : held value.emptied = [] := by
  cases value <;> rfl

/-- A value that is cut off has an end. -/
theorem depth_truncate_le {value : Value} (h : WellLinked value) (n : Nat) :
    depth (truncate n value) ≤ n + 1 := by
  induction n generalizing value with
  | zero =>
      refine depth_le_of_held ?_ ?_
      · exact isRecursive_emptied h.layer.1
      · simp [truncate, held_emptied]
  | succ n ih =>
      obtain ⟨hopen, hinside⟩ := h.layer
      rw [truncate, Nat.cast_add, Nat.cast_one]
      refine depth_le_of_held (isRecursive_mapHeld hopen) fun inner hinner => ?_
      rw [held_mapHeld] at hinner
      obtain ⟨other, hother, rfl⟩ := List.mem_map.1 hinner
      exact ih (hinside other hother)

/-! ## Comparisons -/

/-- A value without containers equals no container. -/
theorem equal_of_depth_zero {value other : Value} (hrecursive : isRecursive value = false)
    (hdepth : depth other ≤ 0) : equal value.emptied other = equal value other := by
  have hflat : ∀ items : List Value, ¬ depthOfItems items + 1 ≤ 0 := by simp
  have hflat' : ∀ entries : Entries, ¬ depthOfEntries entries + 1 ≤ 0 := by simp
  cases value <;> try rfl
  all_goals cases other <;> first | rfl | exact absurd hdepth (hflat _) | exact absurd hdepth (hflat' _)

theorem equalItems_map {f : Value → Value} {xs ys : List Value}
    (h : ∀ x ∈ xs, ∀ y ∈ ys, equal (f x) y = equal x y) :
    equalItems (xs.map f) ys = equalItems xs ys := by
  induction xs generalizing ys with
  | nil => rfl
  | cons x xs ih =>
      cases ys with
      | nil => rfl
      | cons y ys =>
          rw [List.map_cons, equalItems, equalItems, h x List.mem_cons_self y List.mem_cons_self,
            ih fun x' hx y' hy => h x' (List.mem_cons_of_mem x hx) y' (List.mem_cons_of_mem y hy)]

theorem equalMembers_map {f : Value → Value} {xs ys : List Value}
    (h : ∀ x ∈ xs, ∀ y ∈ ys, equal (f x) y = equal x y) :
    equalMembers (xs.map f) ys = equalMembers xs ys := by
  induction xs with
  | nil => rfl
  | cons x xs ih =>
      have hany : ys.any (fun y => equal (f x) y) = ys.any (fun y => equal x y) := by
        rw [Bool.eq_iff_iff, List.any_eq_true, List.any_eq_true]
        exact exists_congr fun y => and_congr_right fun hy => by rw [h x List.mem_cons_self y hy]
      rw [List.map_cons, equalMembers, equalMembers, hany,
        ih fun x' hx => h x' (List.mem_cons_of_mem x hx)]

theorem equalEntries_map {f : Value → Value} {es fs : Entries}
    (h : ∀ e ∈ es, ∀ e' ∈ fs, equal (f e.2) e'.2 = equal e.2 e'.2) :
    equalEntries (es.map fun e => (e.1, f e.2)) fs = equalEntries es fs := by
  rw [equalEntries_eq_all, equalEntries_eq_all, List.all_map]
  rw [Bool.eq_iff_iff, List.all_eq_true, List.all_eq_true]
  refine forall₂_congr fun e he => ?_
  dsimp only [Function.comp_apply]
  cases hfound : find? fs e.1 with
  | none => rfl
  | some value =>
      obtain ⟨e', he', rfl⟩ := Option.map_eq_some_iff.1 hfound
      rw [Option.any_some, Option.any_some, h e he e' (List.mem_of_find?_eq_some he')]

theorem equalKeys_map (f : Value → Value) (es fs : Entries) :
    equalKeys (es.map fun e => (e.1, f e.2)) fs = equalKeys es fs := by
  induction es generalizing fs with
  | nil => rfl
  | cons e es ih =>
      cases fs with
      | nil => rfl
      | cons e' fs => rw [List.map_cons, equalKeys, equalKeys, ih]

/-- What a container holds may be replaced by what no held value of the other is told from. -/
theorem equal_mapHeld {f : Value → Value} {value other : Value}
    (h : ∀ x ∈ held value, ∀ y ∈ held other, equal (f x) y = equal x y) :
    equal (mapHeld f value) other = equal value other := by
  have hentries : ∀ {es fs : Entries},
      (∀ x ∈ es.map (·.2), ∀ y ∈ fs.map (·.2), equal (f x) y = equal x y) →
      ∀ e ∈ es, ∀ e' ∈ fs, equal (f e.2) e'.2 = equal e.2 e'.2 := fun h e he e' he' =>
    h e.2 (List.mem_map_of_mem he) e'.2 (List.mem_map_of_mem he')
  cases value <;> try rfl
  case list xs => cases other <;> first | rfl | exact equalItems_map h
  case listSubtype xs => cases other <;> first | rfl | exact equalItems_map h
  case tuple xs => cases other <;> first | rfl | exact equalItems_map h
  case set xs =>
    cases other <;> try rfl
    case set ys =>
      have hmembers : equalMembers (xs.map f) ys = equalMembers xs ys := equalMembers_map h
      simp only [mapHeld, equal, List.length_map, hmembers]
  case dict es =>
    cases other <;> try rfl
    all_goals simp only [mapHeld, equal, List.length_map, equalEntries_map (hentries h)]
  case orderedDict es =>
    cases other <;> try rfl
    all_goals
      simp only [mapHeld, equal, List.length_map, equalEntries_map (hentries h), equalKeys_map]

theorem exists_equal_of_equalMembers {xs ys : List Value} (h : equalMembers xs ys = true) :
    ∀ x ∈ xs, ∃ y ∈ ys, equal x y = true := by
  induction xs with
  | nil => simp
  | cons x xs ih =>
      rw [equalMembers, Bool.and_eq_true, List.any_eq_true] at h
      exact List.forall_mem_cons.2 ⟨h.1, ih h.2⟩

theorem exists_equal_of_equalEntries {es fs : Entries} (h : equalEntries es fs = true) :
    ∀ x ∈ es.map (·.2), ∃ y ∈ fs.map (·.2), equal x y = true := by
  intro x hx
  obtain ⟨e, he, rfl⟩ := List.mem_map.1 hx
  rw [equalEntries_eq_all, List.all_eq_true] at h
  have hany := h e he
  cases hfound : find? fs e.1 with
  | none => simp [hfound] at hany
  | some y =>
      rw [hfound, Option.any_some] at hany
      obtain ⟨e', he', rfl⟩ := Option.map_eq_some_iff.1 hfound
      exact ⟨e'.2, List.mem_map_of_mem (List.mem_of_find?_eq_some he'), hany⟩

/-- What a container holds equals something that an equal one holds. -/
theorem exists_equal_of_mem_held {value inner other : Value} (hinner : inner ∈ held value)
    (h : equal value other = true) : ∃ y ∈ held other, equal inner y = true := by
  cases value <;> simp only [held, List.not_mem_nil] at hinner
  case set xs =>
    cases other <;> try cases h
    simp only [equal, Bool.and_eq_true] at h
    exact exists_equal_of_equalMembers h.2 inner hinner
  case dict es =>
    cases other <;> try cases h
    all_goals
      simp only [equal, Bool.and_eq_true] at h
      exact exists_equal_of_equalEntries h.2 inner hinner
  case orderedDict es =>
    cases other <;> try cases h
    all_goals
      simp only [equal, Bool.and_eq_true] at h
    · exact exists_equal_of_equalEntries h.2 inner hinner
    · exact exists_equal_of_equalEntries h.1.2 inner hinner
  all_goals
    cases other <;> try cases h
    all_goals exact exists_equal_of_equalItems h inner hinner

/-- Nothing finite equals a container that holds something without an end. -/
theorem equal_of_held_recursive {value inner other : Value} (hheld : inner ∈ held value)
    (hinner : isRecursive inner = true) (hother : depth other ≠ ⊤) :
    equal value other = false := by
  refine Bool.eq_false_iff.2 fun hequal => hother ?_
  obtain ⟨y, hy, hsame⟩ := exists_equal_of_mem_held hheld hequal
  have hdepth : depth y = ⊤ := by
    cases inner <;> cases hinner
    cases y <;> first | rfl | cases hsame
  have hle := depth_add_one_le_of_mem_held hy
  rwa [hdepth, top_add, top_le_iff] at hle

/-- A recursive value equals nothing finite, and neither does its layer. -/
theorem equal_layer {value other : Value} (h : WellLinked value) (hother : depth other ≠ ⊤) :
    equal value.layer other = equal value other := by
  cases value
  case recursive heap entry =>
    obtain ⟨inner, hinner, hrecursive⟩ := h.exists_recursive
    rw [equal_of_held_recursive hinner hrecursive hother]
    cases other <;> first | rfl | exact absurd rfl hother
  all_goals rfl

/-- A comparison does not reach what is cut off below the depth of the other value. -/
theorem equal_truncate {n : Nat} {value other : Value} (h : WellLinked value)
    (hother : depth other ≤ n) : equal (truncate n value) other = equal value other := by
  have hfinite : depth other ≠ ⊤ := ne_top_of_le_ne_top (ENat.natCast_ne_top n) hother
  rw [← equal_layer h hfinite]
  obtain ⟨hopen, hinside⟩ := h.layer
  clear h
  induction n generalizing value other with
  | zero => exact equal_of_depth_zero hopen hother
  | succ n ih =>
      refine equal_mapHeld fun x hx y hy => ?_
      have hwell := hinside x hx
      have hy := depth_le_of_mem_held hy hother
      have hyfinite : depth y ≠ ⊤ := ne_top_of_le_ne_top (ENat.natCast_ne_top n) hy
      rw [ih hy hyfinite hwell.layer.1 hwell.layer.2, equal_layer hwell hyfinite]

/-! ## What a value shows, cut off -/

/-- What a value shows without being opened: its type, its kind, and whether it is nothing. -/
def outline (value : Value) : String × Option Kind × Bool × Bool :=
  (value.typeName, value.kind?, value.isNull, value.isMissing)

theorem outline_emptied (value : Value) : outline value.emptied = outline value := by
  cases value <;> rfl

theorem outline_mapHeld (f : Value → Value) (value : Value) :
    outline (mapHeld f value) = outline value := by
  cases value <;> rfl

theorem WellLinked.outline_layer {value : Value} (h : WellLinked value) :
    outline value.layer = outline value := by
  cases value
  case recursive heap entry =>
    obtain ⟨node, -, -, hlinkable, -, hnode, hlayer⟩ := h.exists_node
    rw [hlayer, outline_mapHeld]
    cases node <;> cases hlinkable
    all_goals simp only [outline, typeName, kind?, isNull, isMissing, hnode]
  all_goals rfl

theorem outline_truncate {value : Value} (h : WellLinked value) (n : Nat) :
    outline (truncate n value) = outline value := by
  rw [← h.outline_layer]
  cases n with
  | zero => exact outline_emptied _
  | succ n => exact outline_mapHeld _ _

/-- A value of a kind is no container, so nothing of it is cut off. -/
theorem truncate_of_kind {value : Value} {kind : Kind} (h : value.kind? = some kind) (n : Nat) :
    truncate n value = value := by
  cases n <;> cases value <;> first | rfl | cases h

theorem layer_mapHeld {f : Value → Value} {value : Value} (h : isRecursive value = false) :
    (mapHeld f value).layer = mapHeld f value := by
  cases value <;> first | rfl | cases h

theorem items?_truncate {value : Value} (h : WellLinked value) (n : Nat) :
    (truncate (n + 1) value).items? = value.items?.map (·.map (truncate n)) := by
  have hopen := h.layer.1
  rw [items?, items?, truncate, layer_mapHeld hopen]
  cases value.layer <;> rfl

theorem entries?_truncate {value : Value} (h : WellLinked value) (n : Nat) :
    (truncate (n + 1) value).entries? =
      value.entries?.map (·.map fun e => (e.1, truncate n e.2)) := by
  have hopen := h.layer.1
  rw [entries?, entries?, truncate, layer_mapHeld hopen]
  cases value.layer <;> rfl

theorem WellLinked.of_items {value : Value} {items : List Value} (h : WellLinked value)
    (hitems : value.items? = some items) : ∀ item ∈ items, WellLinked item := by
  have hinside := h.layer.2
  unfold items? at hitems
  split at hitems <;> cases hitems
  all_goals
    next heq =>
      rw [heq] at hinside
      exact hinside

theorem WellLinked.of_entries {value : Value} {entries : Entries} (h : WellLinked value)
    (hentries : value.entries? = some entries) : ∀ e ∈ entries, WellLinked e.2 := by
  have hinside := h.layer.2
  unfold entries? at hentries
  split at hentries <;> cases hentries
  next heq =>
    rw [heq] at hinside
    exact fun e he => hinside e.2 (List.mem_map_of_mem he)

end Conformance.Value
