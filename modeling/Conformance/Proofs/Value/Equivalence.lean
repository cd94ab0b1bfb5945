import Conformance.Proofs.Value.Equality
import Conformance.Proofs.Value.Position

/-! # Equal data

Two values say the same when they are scalars of one kind and equal, or lists with such items at
the same places, or records with such values under equal keys, in whatever order the keys stand.
No comparison with a third value tells them apart, and their parts say the same again.
-/

namespace Conformance.Value

/-- Neither a list nor a plain record. -/
def isClosed : Value → Bool
  | .list _ | .listSubtype _ | .dict _ | .recursive _ _ => false
  | _ => true

inductive Equivalent : Value → Value → Prop
  | closed {value : Value} (h : isClosed value = true) : Equivalent value value
  | scalar {left right : Value} {kind : Kind} (hleft : left.kind? = some kind)
      (hright : right.kind? = some kind) (hequal : equal left right = true) :
      Equivalent left right
  | list {xs ys : List Value} (hlength : xs.length = ys.length)
      (hitems : ∀ (i : Nat) (x y : Value), xs[i]? = some x → ys[i]? = some y → Equivalent x y) :
      Equivalent (.list xs) (.list ys)
  | listSubtype {xs ys : List Value} (hlength : xs.length = ys.length)
      (hitems : ∀ (i : Nat) (x y : Value), xs[i]? = some x → ys[i]? = some y → Equivalent x y) :
      Equivalent (.listSubtype xs) (.listSubtype ys)
  | dict {es fs : Entries} (hleft : ∀ e ∈ es, ∃ f ∈ fs, equal e.1 f.1 = true)
      (hright : ∀ f ∈ fs, ∃ e ∈ es, equal e.1 f.1 = true)
      (hvalues : ∀ e ∈ es, ∀ f ∈ fs, equal e.1 f.1 = true → Equivalent e.2 f.2) :
      Equivalent (.dict es) (.dict fs)
  | recursive {heap heap' : List Value} (hlength : heap.length = heap'.length)
      (hnodes : ∀ (i : Nat) (node node' : Value), heap[i]? = some node → heap'[i]? = some node' →
        Equivalent node node') (entry : Nat) :
      Equivalent (.recursive heap entry) (.recursive heap' entry)

/-- Lists of equal length with equivalent items at the same places. -/
structure Alike (xs ys : List Value) : Prop where
  length_eq : xs.length = ys.length
  items : ∀ (i : Nat) (x y : Value), xs[i]? = some x → ys[i]? = some y → Equivalent x y

structure Matched (es fs : Entries) : Prop where
  left : ∀ e ∈ es, ∃ f ∈ fs, equal e.1 f.1 = true
  right : ∀ f ∈ fs, ∃ e ∈ es, equal e.1 f.1 = true
  values : ∀ e ∈ es, ∀ f ∈ fs, equal e.1 f.1 = true → Equivalent e.2 f.2

theorem Alike.getElem? {xs ys : List Value} (h : Alike xs ys) (i : Nat) :
    xs[i]? = none ∧ ys[i]? = none ∨
      ∃ x y, xs[i]? = some x ∧ ys[i]? = some y ∧ Equivalent x y := by
  cases hx : xs[i]? with
  | none =>
      rw [List.getElem?_eq_none_iff, h.length_eq] at hx
      exact .inl ⟨rfl, List.getElem?_eq_none_iff.mpr hx⟩
  | some x =>
      have hlt : i < ys.length := by
        rw [← h.length_eq]
        exact (List.getElem?_eq_some_iff.mp hx).1
      have hy := List.getElem?_eq_getElem hlt
      exact .inr ⟨x, ys[i], rfl, hy, h.items i x _ hx hy⟩

/-! ## What equivalent values have in common -/

theorem Equivalent.kind?_eq {left right : Value} (h : Equivalent left right) :
    left.kind? = right.kind? := by
  cases h with
  | scalar hleft hright hequal => rw [hleft, hright]
  | _ => rfl

theorem isNull_of_kind {value : Value} {kind : Kind} (h : value.kind? = some kind) :
    value.isNull = false :=
  Bool.eq_false_iff.mpr fun hnull => by simp [kind?_of_null hnull] at h

theorem isMissing_of_kind {value : Value} {kind : Kind} (h : value.kind? = some kind) :
    value.isMissing = false :=
  Bool.eq_false_iff.mpr fun hmissing => by simp [kind?_of_missing hmissing] at h

theorem Equivalent.isNull_eq {left right : Value} (h : Equivalent left right) :
    left.isNull = right.isNull := by
  cases h with
  | scalar hleft hright hequal => rw [isNull_of_kind hleft, isNull_of_kind hright]
  | _ => rfl

theorem Equivalent.isMissing_eq {left right : Value} (h : Equivalent left right) :
    left.isMissing = right.isMissing := by
  cases h with
  | scalar hleft hright hequal => rw [isMissing_of_kind hleft, isMissing_of_kind hright]
  | _ => rfl

/-- In a heap whatever is no tuple and no record counts as a list, so also a scalar. -/
theorem typeName_recursive_of_kind {heap : List Value} {entry : Nat} {node : Value} {kind : Kind}
    (hnode : heap[entry]? = some node) (hkind : node.kind? = some kind) :
    typeName (.recursive heap entry) = "list" := by
  simp only [typeName, hnode]
  cases node <;> first | rfl | cases hkind

/-- The type of a value that is no scalar is kept. -/
theorem Equivalent.typeName_eq {left right : Value} (h : Equivalent left right)
    (hkind : left.kind? = none) : left.typeName = right.typeName := by
  cases h with
  | scalar hleft hright hequal => simp [hleft] at hkind
  | recursive hlength hnodes entry =>
      rcases Alike.getElem? ⟨hlength, hnodes⟩ entry with
        ⟨hx, hy⟩ | ⟨node, node', hx, hy, hnode⟩
      · simp only [typeName, hx, hy]
      · cases hnode with
        | scalar hleft hright hequal =>
            rw [typeName_recursive_of_kind hx hleft, typeName_recursive_of_kind hy hright]
        | _ => simp only [typeName, hx, hy]
  | _ => rfl

/-! ## Comparison with other values -/

theorem hashable_of_kind {value : Value} {kind : Kind} (h : value.kind? = some kind) :
    unhashable? value = none := by
  cases value <;> first | rfl | cases h

theorem not_node_of_kind {value : Value} {kind : Kind} (h : value.kind? = some kind) :
    isNode value = false := by
  cases value <;> first | rfl | cases h

theorem equalItems_congr {xs ys : List Value} (hlength : xs.length = ys.length)
    (hitems : ∀ (i : Nat) (x y : Value), xs[i]? = some x → ys[i]? = some y →
      ∀ other, equal x other = equal y other) (others : List Value) :
    equalItems xs others = equalItems ys others := by
  induction xs generalizing ys others with
  | nil =>
      rw [List.length_eq_zero_iff.mp hlength.symm]
  | cons x xs ih =>
      cases ys with
      | nil => cases hlength
      | cons y ys =>
          cases others with
          | nil => rfl
          | cons other others =>
              have hhead := hitems 0 x y rfl rfl other
              have htail := ih (Nat.succ.inj hlength) (fun i => hitems (i + 1)) others
              rw [equalItems, equalItems, hhead, htail]

theorem equalEntries_eq_all (es fs : Entries) :
    equalEntries es fs = es.all fun e => (find? fs e.1).any (equal e.2) := by
  induction es with
  | nil => rfl
  | cons e es ih =>
      obtain ⟨key, value⟩ := e
      rw [equalEntries, ih, List.all_cons, find?]
      cases fs.find? fun e => equal key e.1 <;> rfl

/-- Each of several distinct keys equals another one of some keys: then these are as many. -/
theorem Keyed.length_le {es fs : Entries} (hes : Keyed es)
    (hfs : ∀ f ∈ fs, unhashable? f.1 = none)
    (h : ∀ e ∈ es, ∃ f ∈ fs, equal e.1 f.1 = true) : es.length ≤ fs.length := by
  induction es generalizing fs with
  | nil => exact Nat.zero_le _
  | cons e es ih =>
      obtain ⟨hhashable, hdistinct⟩ := hes
      obtain ⟨hfirst, hrest⟩ := List.pairwise_cons.mp hdistinct
      obtain ⟨f, hf, hequal⟩ := h e List.mem_cons_self
      obtain ⟨before, after, rfl⟩ := List.append_of_mem hf
      have hle : es.length ≤ (before ++ after).length := by
        refine ih ⟨fun e' he' => hhashable e' (List.mem_cons_of_mem e he'), hrest⟩ ?_ ?_
        · intro f' hf'
          have hmem := List.mem_append.mp hf'
          exact hfs f' (List.mem_append.mpr (hmem.imp_right (List.mem_cons_of_mem f)))
        · intro e' he'
          obtain ⟨f', hf', hequal'⟩ := h e' (List.mem_cons_of_mem e he')
          refine ⟨f', ?_, hequal'⟩
          -- The key that equals that of `e` is no longer free for another one.
          have hne : f' ≠ f := by
            rintro rfl
            have hkey := equal_trans (hhashable e List.mem_cons_self) (hfs f' hf') hequal
              (equal_symm (hhashable e' (List.mem_cons_of_mem e he')) (hfs f' hf') hequal')
            exact absurd (hkey.symm.trans (hfirst e' he')) (by simp)
          have hmem := List.mem_append.mp hf'
          exact List.mem_append.mpr (hmem.imp_right fun h => List.mem_of_ne_of_mem hne h)
      simp only [List.length_append, List.length_cons] at hle ⊢
      omega

theorem Matched.length_eq {es fs : Entries} (h : Matched es fs) (hes : Keyed es)
    (hfs : Keyed fs) : es.length = fs.length := by
  refine Nat.le_antisymm (hes.length_le hfs.1 h.left) (hfs.length_le hes.1 fun f hf => ?_)
  obtain ⟨e, he, hequal⟩ := h.right f hf
  exact ⟨e, he, equal_symm (hes.1 e he) (hfs.1 f hf) hequal⟩

/-- What holds of the one entry whenever it holds of the other under an equal key holds of all
entries on both sides or on none. -/
theorem Matched.all_eq {es fs : Entries} (h : Matched es fs) {test : Value × Value → Bool}
    (htest : ∀ e ∈ es, ∀ f ∈ fs, equal e.1 f.1 = true → test e = test f) :
    es.all test = fs.all test := by
  rw [Bool.eq_iff_iff, List.all_eq_true, List.all_eq_true]
  constructor
  · intro hall f hf
    obtain ⟨e, he, hequal⟩ := h.right f hf
    rw [← htest e he f hf hequal]
    exact hall e he
  · intro hall e he
    obtain ⟨f, hf, hequal⟩ := h.left e he
    rw [htest e he f hf hequal]
    exact hall f hf

/-- Equivalent values equal the same values. -/
theorem Equivalent.equal_eq {left right : Value} (h : Equivalent left right)
    (hleft : WellKeyed left) (hright : WellKeyed right) (other : Value) :
    equal left other = equal right other := by
  induction h generalizing other with
  | closed h => rfl
  | scalar hkind hkind' hequal =>
      exact equal_left_congr (hashable_of_kind hkind) (hashable_of_kind hkind') hequal other
  | list hlength hitems ih =>
      have hcongr := equalItems_congr hlength fun i x y hx hy =>
        ih i x y hx hy (hleft.inside (List.mem_of_getElem? hx))
          (hright.inside (List.mem_of_getElem? hy))
      cases other
      case list others => exact hcongr others
      case listSubtype others => exact hcongr others
      all_goals rfl
  | listSubtype hlength hitems ih =>
      have hcongr := equalItems_congr hlength fun i x y hx hy =>
        ih i x y hx hy (hleft.inside (List.mem_of_getElem? hx))
          (hright.inside (List.mem_of_getElem? hy))
      cases other
      case list others => exact hcongr others
      case listSubtype others => exact hcongr others
      all_goals rfl
  | @dict es fs hes hfs hvalues ih =>
      have hmatched : Matched es fs := ⟨hes, hfs, hvalues⟩
      have hcongr : ∀ gs : Entries,
          (es.length == gs.length && equalEntries es gs) =
            (fs.length == gs.length && equalEntries fs gs) := by
        intro gs
        rw [hmatched.length_eq hleft.own hright.own, equalEntries_eq_all, equalEntries_eq_all]
        congr 1
        refine hmatched.all_eq fun e he f hf hequal => ?_
        have hvalue := ih e he f hf hequal (hleft.inside (List.mem_map.mpr ⟨e, he, rfl⟩))
          (hright.inside (List.mem_map.mpr ⟨f, hf, rfl⟩))
        rw [find?_congr (hleft.own.1 e he) (hright.own.1 f hf) hequal, funext hvalue]
      cases other
      case dict gs => exact hcongr gs
      case orderedDict gs => exact hcongr gs
      all_goals rfl
  | recursive hlength hnodes entry ih =>
      cases other <;> rfl

theorem Equivalent.attach {left right : Value} (h : Equivalent left right)
    {heap heap' : List Value} (hheap : Alike heap heap') :
    Equivalent (attach heap left) (attach heap' right) := by
  cases h with
  | closed hclosed =>
      cases left
      case link entry => exact .recursive hheap.length_eq hheap.items entry
      all_goals exact .closed hclosed
  | scalar hleft hright hequal =>
      have hself : ∀ {heap : List Value} {value : Value} {kind : Kind},
          value.kind? = some kind → Value.attach heap value = value := by
        intro heap value kind hkind
        cases value <;> first | rfl | cases hkind
      rw [hself hleft, hself hright]
      exact .scalar hleft hright hequal
  | list hlength hitems => exact .list hlength hitems
  | listSubtype hlength hitems => exact .listSubtype hlength hitems
  | dict hleft hright hvalues => exact .dict hleft hright hvalues
  | recursive hlength hnodes entry => exact .recursive hlength hnodes entry

theorem Alike.attach {heap heap' xs ys : List Value} (hheap : Alike heap heap')
    (h : Alike xs ys) : Alike (xs.map (Value.attach heap)) (ys.map (Value.attach heap')) where
  length_eq := by rw [List.length_map, List.length_map, h.length_eq]
  items i x y hx hy := by
    rw [List.getElem?_map] at hx hy
    obtain ⟨x', hx', rfl⟩ := Option.map_eq_some_iff.mp hx
    obtain ⟨y', hy', rfl⟩ := Option.map_eq_some_iff.mp hy
    exact (h.items i x' y' hx' hy').attach hheap

theorem Matched.attach {heap heap' : List Value} {es fs : Entries} (hheap : Alike heap heap')
    (h : Matched es fs) :
    Matched (es.map fun e => (e.1, Value.attach heap e.2))
      (fs.map fun f => (f.1, Value.attach heap' f.2)) where
  left e he := by
    obtain ⟨e', he', rfl⟩ := List.mem_map.mp he
    obtain ⟨f, hf, hequal⟩ := h.left e' he'
    exact ⟨_, List.mem_map.mpr ⟨f, hf, rfl⟩, hequal⟩
  right f hf := by
    obtain ⟨f', hf', rfl⟩ := List.mem_map.mp hf
    obtain ⟨e, he, hequal⟩ := h.right f' hf'
    exact ⟨_, List.mem_map.mpr ⟨e, he, rfl⟩, hequal⟩
  values e he f hf hequal := by
    obtain ⟨e', he', rfl⟩ := List.mem_map.mp he
    obtain ⟨f', hf', rfl⟩ := List.mem_map.mp hf
    exact (h.values e' he' f' hf' hequal).attach hheap

/-- Neither a list nor a plain record, after a layer has been opened. -/
def isBare : Value → Bool
  | .list _ | .listSubtype _ | .dict _ => false
  | _ => true

/-- How the layers of equivalent values go together. -/
inductive Opened : Value → Value → Prop
  | bare {left right : Value} (hleft : isBare left = true) (hright : isBare right = true) :
      Opened left right
  | list {xs ys : List Value} (h : Alike xs ys) : Opened (.list xs) (.list ys)
  | listSubtype {xs ys : List Value} (h : Alike xs ys) :
      Opened (.listSubtype xs) (.listSubtype ys)
  | dict {es fs : Entries} (h : Matched es fs) : Opened (.dict es) (.dict fs)

theorem isBare_of_closed {value : Value} (h : isClosed value = true) : isBare value = true := by
  cases value <;> first | rfl | cases h

theorem isClosed_of_kind {value : Value} {kind : Kind} (h : value.kind? = some kind) :
    isClosed value = true := by
  cases value <;> first | rfl | cases h

theorem layer_of_closed {value : Value} (h : isClosed value = true) : value.layer = value := by
  cases value <;> first | rfl | cases h

theorem isBare_layer_of_closed {heap : List Value} {entry : Nat} {node : Value}
    (hnode : heap[entry]? = some node) (h : isClosed node = true) :
    isBare (layer (.recursive heap entry)) = true := by
  simp only [layer, hnode]
  cases node <;> first | rfl | cases h

/-- A layer of a heap that is equivalent node by node. -/
theorem Alike.layer {heap heap' : List Value} (h : Alike heap heap') (entry : Nat) :
    Opened (layer (.recursive heap entry)) (layer (.recursive heap' entry)) := by
  rcases h.getElem? entry with ⟨hx, hy⟩ | ⟨node, node', hx, hy, hnode⟩
  · simp only [Value.layer, hx, hy]
    exact .bare rfl rfl
  · cases hnode with
    | closed hclosed =>
        exact .bare (isBare_layer_of_closed hx hclosed) (isBare_layer_of_closed hy hclosed)
    | scalar hleft hright hequal =>
        exact .bare (isBare_layer_of_closed hx (isClosed_of_kind hleft))
          (isBare_layer_of_closed hy (isClosed_of_kind hright))
    | list hlength hitems =>
        simp only [Value.layer, hx, hy]
        exact .list (h.attach ⟨hlength, hitems⟩)
    | listSubtype hlength hitems =>
        simp only [Value.layer, hx, hy]
        exact .listSubtype ⟨hlength, hitems⟩
    | dict hleft hright hvalues =>
        simp only [Value.layer, hx, hy]
        exact .dict (Matched.attach h ⟨hleft, hright, hvalues⟩)
    | recursive hlength hnodes inner =>
        simp only [Value.layer, hx, hy]
        exact .bare rfl rfl

theorem Equivalent.layer {left right : Value} (h : Equivalent left right) :
    Opened left.layer right.layer := by
  cases h with
  | closed hclosed =>
      rw [layer_of_closed hclosed]
      exact .bare (isBare_of_closed hclosed) (isBare_of_closed hclosed)
  | scalar hleft hright hequal =>
      have hclosed := isClosed_of_kind hleft
      have hclosed' := isClosed_of_kind hright
      rw [layer_of_closed hclosed, layer_of_closed hclosed']
      exact .bare (isBare_of_closed hclosed) (isBare_of_closed hclosed')
  | list hlength hitems => exact .list ⟨hlength, hitems⟩
  | listSubtype hlength hitems => exact .listSubtype ⟨hlength, hitems⟩
  | dict hleft hright hvalues => exact .dict ⟨hleft, hright, hvalues⟩
  | recursive hlength hnodes entry => exact Alike.layer ⟨hlength, hnodes⟩ entry

/-- Equivalent values are lists with equivalent items, or none of them is a list. -/
theorem Equivalent.items? {left right : Value} (h : Equivalent left right) :
    left.items? = none ∧ right.items? = none ∨
      ∃ xs ys, left.items? = some xs ∧ right.items? = some ys ∧ Alike xs ys := by
  have hlayer := h.layer
  unfold Value.items?
  generalize left.layer = x at hlayer ⊢
  generalize right.layer = y at hlayer ⊢
  cases hlayer with
  | bare hx hy =>
      left
      constructor
      · cases x <;> first | rfl | cases hx
      · cases y <;> first | rfl | cases hy
  | list hitems => exact .inr ⟨_, _, rfl, rfl, hitems⟩
  | listSubtype hitems => exact .inr ⟨_, _, rfl, rfl, hitems⟩
  | dict hentries => exact .inl ⟨rfl, rfl⟩

/-- Equivalent values are records with matching entries, or none of them is a record. -/
theorem Equivalent.entries? {left right : Value} (h : Equivalent left right) :
    left.entries? = none ∧ right.entries? = none ∨
      ∃ es fs, left.entries? = some es ∧ right.entries? = some fs ∧ Matched es fs := by
  have hlayer := h.layer
  unfold Value.entries?
  generalize left.layer = x at hlayer ⊢
  generalize right.layer = y at hlayer ⊢
  cases hlayer with
  | bare hx hy =>
      left
      constructor
      · cases x <;> first | rfl | cases hx
      · cases y <;> first | rfl | cases hy
  | list hitems => exact .inl ⟨rfl, rfl⟩
  | listSubtype hitems => exact .inl ⟨rfl, rfl⟩
  | dict hentries => exact .inr ⟨_, _, rfl, rfl, hentries⟩

/-- Under one key matching records have equivalent values, or both have none. -/
theorem Matched.find? {es fs : Entries} (h : Matched es fs) (hes : Keyed es) (hfs : Keyed fs)
    {name : Value} (hname : unhashable? name = none) :
    find? es name = none ∧ find? fs name = none ∨
      ∃ x y, Value.find? es name = some x ∧ Value.find? fs name = some y ∧ Equivalent x y := by
  by_cases hfound : ∃ e ∈ es, equal e.1 name = true
  · obtain ⟨e, he, hequal⟩ := hfound
    obtain ⟨f, hf, hkey⟩ := h.left e he
    have hother : equal f.1 name = true := by
      rw [← equal_left_congr (hes.1 e he) (hfs.1 f hf) hkey]
      exact hequal
    exact .inr ⟨e.2, f.2, hes.find?_of_equal he hname hequal,
      hfs.find?_of_equal hf hname hother, h.values e he f hf hkey⟩
  · left
    have hfree : ∀ e ∈ es, equal e.1 name = false := fun e he =>
      Bool.eq_false_iff.mpr fun hequal => hfound ⟨e, he, hequal⟩
    refine ⟨hes.find?_eq_none hname hfree, hfs.find?_eq_none hname fun f hf => ?_⟩
    obtain ⟨e, he, hkey⟩ := h.right f hf
    rw [← equal_left_congr (hes.1 e he) (hfs.1 f hf) hkey]
    exact hfree e he

end Conformance.Value
