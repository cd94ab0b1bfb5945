import Conformance.Proofs.Value.Keys
import Conformance.Proofs.Value.Order
import Conformance.Value.Attribute

/-! # Equality of keys

A value that can be a key is an atom or a node. Atoms are equal when they are one and the same
after numbers are put on one line and times in one zone; nodes are equal when they are of one type
and their parts are equal in order. So equality among keys is symmetric and transitive. It is not
reflexive: a NaN is no atom.
-/

namespace Conformance.Value

inductive Atom
  | null
  | missing
  | number (mark : Number.Mark)
  | text (s : String)
  | bytes (b : List UInt8)
  | member (m : EnumMember)
  | pattern (p : Pattern)
  | date (d : Date)
  | moment (aware : Bool) (ticks : Int)

/-- A moment in universal time, or on its own clock if it has no zone. -/
def ticks (m : Moment) : Int :=
  match m.offset with
  | some offset => m.universal offset
  | none => m.clock

/-- The atom of a value that counts neither as a number nor as a text. -/
def plainAtom? : Value → Option Atom
  | .null => some .null
  | .missing => some .missing
  | .bytes b => some (.bytes b)
  | .member m => some (.member m)
  | .pattern p => some (.pattern p)
  | .date d => some (.date d)
  | .moment m => some (.moment m.offset.isSome (ticks m))
  | _ => none

def atom? (value : Value) : Option Atom :=
  match value.number? with
  | some a => a.mark?.map .number
  | none =>
    match value.text? with
    | some s => some (.text s)
    | none => plainAtom? value

/-- Equality of values that are not both numbers nor both texts. -/
def plainEqual (left right : Value) : Bool :=
  match left, right with
  | .null, .null | .missing, .missing => true
  | .bytes a, .bytes b => a == b
  | .member a, .member b => a == b
  | .pattern a, .pattern b => a == b
  | .date a, .date b => a == b
  | .moment a, .moment b =>
    match a.offset, b.offset with
    | some x, some y => a.universal x == b.universal y
    | none, none => a.clock == b.clock
    | _, _ => false
  | _, _ => false

theorem atomEqual_eq_plainEqual {left right : Value}
    (hnumber : left.number? = none ∨ right.number? = none)
    (htext : left.text? = none ∨ right.text? = none) :
    atomEqual left right = plainEqual left right := by
  unfold atomEqual
  have hnumbers : ∀ a b, ¬ (left.number? = some a ∧ right.number? = some b) := by
    rcases hnumber with h | h <;> simp [h]
  have htexts : ∀ a b, ¬ (left.text? = some a ∧ right.text? = some b) := by
    rcases htext with h | h <;> simp [h]
  split
  · next a b hl hr => exact absurd ⟨hl, hr⟩ (hnumbers a b)
  · split
    · next a b hl hr => exact absurd ⟨hl, hr⟩ (htexts a b)
    · rfl

theorem plainEqual_eq_true_iff {left right : Value} :
    plainEqual left right = true ↔
      ∃ x, plainAtom? left = some x ∧ plainAtom? right = some x := by
  cases left
  case null => cases right <;> simp [plainEqual, plainAtom?]
  case missing => cases right <;> simp [plainEqual, plainAtom?]
  case bytes b =>
    cases right <;> simp [plainEqual, plainAtom?]
    exact eq_comm
  case member m =>
    cases right <;> simp [plainEqual, plainAtom?]
    exact eq_comm
  case pattern p =>
    cases right <;> simp [plainEqual, plainAtom?]
    exact eq_comm
  case date d =>
    cases right <;> simp [plainEqual, plainAtom?]
    exact eq_comm
  case moment m =>
    cases right
    case moment m' =>
      cases h : m.offset <;> cases h' : m'.offset <;>
        simp [plainEqual, plainAtom?, ticks, h, h']
      all_goals exact eq_comm
    all_goals simp [plainEqual, plainAtom?]
  all_goals simp [plainEqual, plainAtom?]

theorem atom?_of_number {value : Value} {a : Number} (h : value.number? = some a) :
    atom? value = a.mark?.map .number := by
  simp [atom?, h]

theorem atom?_of_text {value : Value} {s : String} (h : value.text? = some s) :
    atom? value = some (.text s) := by
  simp [atom?, number?_of_text h, h]

theorem atom?_of_plain {value : Value} (hnumber : value.number? = none)
    (htext : value.text? = none) : atom? value = plainAtom? value := by
  simp [atom?, hnumber, htext]

/-- A plain atom tells what it is the atom of from every number and text. -/
theorem plainAtom?_ne {value : Value} {x : Atom} (h : plainAtom? value = some x) :
    (∀ mark, x ≠ .number mark) ∧ ∀ s, x ≠ .text s := by
  cases value <;> simp only [plainAtom?, Option.some.injEq, reduceCtorEq] at h
  all_goals
    subst h
    simp

/-- Two values of one plain atom count as numbers alike and as texts alike. -/
theorem counts_of_plainAtom {left right : Value} {x : Atom} (hl : plainAtom? left = some x)
    (hr : plainAtom? right = some x) :
    left.number? = right.number? ∧ left.text? = right.text? := by
  cases left <;> simp only [plainAtom?, Option.some.injEq, reduceCtorEq] at hl
  all_goals
    subst hl
    cases right <;> simp [plainAtom?] at hr
    first | exact ⟨rfl, rfl⟩ | exact hr ▸ ⟨rfl, rfl⟩

theorem number?_of_atom {value : Value} {mark : Number.Mark}
    (h : atom? value = some (.number mark)) : value.number?.isSome = true := by
  cases hnumber : value.number? with
  | some a => rfl
  | none =>
      cases htext : value.text? with
      | some s => simp [atom?_of_text htext] at h
      | none =>
          rw [atom?_of_plain hnumber htext] at h
          exact absurd rfl ((plainAtom?_ne h).1 mark)

theorem text?_of_atom {value : Value} {s : String} (h : atom? value = some (.text s)) :
    value.text? = some s := by
  cases hnumber : value.number? with
  | some a => simp [atom?_of_number hnumber] at h
  | none =>
      cases htext : value.text? with
      | some t => simpa [atom?_of_text htext] using h
      | none =>
          rw [atom?_of_plain hnumber htext] at h
          exact absurd rfl ((plainAtom?_ne h).2 s)

theorem plainAtom?_of_atom {value : Value} {x : Atom} (h : atom? value = some x)
    (hnumber : ∀ mark, x ≠ .number mark) (htext : ∀ s, x ≠ .text s) :
    plainAtom? value = some x := by
  cases hn : value.number? with
  | some a =>
      rw [atom?_of_number hn] at h
      obtain ⟨mark, -, rfl⟩ := Option.map_eq_some_iff.mp h
      exact absurd rfl (hnumber mark)
  | none =>
      cases ht : value.text? with
      | some s =>
          rw [atom?_of_text ht] at h
          exact absurd (Option.some.inj h).symm (htext s)
      | none => rwa [atom?_of_plain hn ht] at h

/-- Values without parts are equal exactly when they have one atom. -/
theorem atomEqual_eq_true_iff {left right : Value} :
    atomEqual left right = true ↔ ∃ x, atom? left = some x ∧ atom? right = some x := by
  by_cases hnumbers : left.number?.isSome ∧ right.number?.isSome
  · obtain ⟨⟨a, ha⟩, ⟨b, hb⟩⟩ := hnumbers.imp Option.isSome_iff_exists.mp
      Option.isSome_iff_exists.mp
    have hequal : atomEqual left right = a.equal b := by simp [atomEqual, ha, hb]
    rw [hequal, Number.equal_eq_true_iff, atom?_of_number ha, atom?_of_number hb]
    constructor
    · rintro ⟨mark, hleft, hright⟩
      exact ⟨.number mark, by simp [hleft], by simp [hright]⟩
    · rintro ⟨x, hleft, hright⟩
      obtain ⟨mark, hmark, rfl⟩ := Option.map_eq_some_iff.mp hleft
      exact ⟨mark, hmark, by simpa using hright⟩
  by_cases htexts : left.text?.isSome ∧ right.text?.isSome
  · obtain ⟨⟨s, hs⟩, ⟨t, ht⟩⟩ := htexts.imp Option.isSome_iff_exists.mp
      Option.isSome_iff_exists.mp
    have hequal : atomEqual left right = (s == t) := by
      simp [atomEqual, number?_of_text hs, hs, ht]
    rw [hequal, atom?_of_text hs, atom?_of_text ht]
    simp
    exact eq_comm
  have hnumber : left.number? = none ∨ right.number? = none := by
    cases hl : left.number? <;> cases hr : right.number? <;> simp_all
  have htext : left.text? = none ∨ right.text? = none := by
    cases hl : left.text? <;> cases hr : right.text? <;> simp_all
  rw [atomEqual_eq_plainEqual hnumber htext, plainEqual_eq_true_iff]
  -- Values of one plain atom count alike, so both are plain; any other atom was dealt with above.
  constructor
  · rintro ⟨x, hl, hr⟩
    obtain ⟨hsame, hsame'⟩ := counts_of_plainAtom hl hr
    rw [hsame, or_self] at hnumber
    rw [hsame', or_self] at htext
    exact ⟨x, by rw [atom?_of_plain (hsame.trans hnumber) (hsame'.trans htext), hl],
      by rw [atom?_of_plain hnumber htext, hr]⟩
  · rintro ⟨x, hl, hr⟩
    cases x
    case number mark => exact absurd ⟨number?_of_atom hl, number?_of_atom hr⟩ hnumbers
    case text s => exact absurd ⟨by simp [text?_of_atom hl], by simp [text?_of_atom hr]⟩ htexts
    all_goals
      exact ⟨_, plainAtom?_of_atom hl (by simp) (by simp),
        plainAtom?_of_atom hr (by simp) (by simp)⟩

/-! ## Nodes -/

/-- The values with parts that can be keys. -/
def isNode : Value → Bool
  | .tuple _ => true
  | value => value.isSchemaRecord

theorem sizeOf_lt_of_mem_components {value component : Value} (hnode : isNode value = true)
    (h : component ∈ components value) : sizeOf component < sizeOf value := by
  cases value <;> simp only [isNode, isSchemaRecord, reduceCtorEq] at hnode
  case tuple items =>
    have hlt := List.sizeOf_lt_of_mem h
    simp only [components] at hlt
    simp only [Value.tuple.sizeOf_spec]
    omega
  all_goals
    simp only [components, List.mem_cons, List.not_mem_nil, or_false] at h
    simp
    grind

theorem hashable_of_mem_items {items : List Value} (h : unhashableItem? items = none) :
    ∀ item ∈ items, unhashable? item = none := by
  induction items with
  | nil => simp
  | cons x xs ih =>
      rw [unhashableItem?, Option.or_eq_none_iff] at h
      exact List.forall_mem_cons.mpr ⟨h.1, ih h.2⟩

theorem hashable_of_mem_components {value : Value} (hnode : isNode value = true)
    (h : unhashable? value = none) : ∀ component ∈ components value, unhashable? component = none := by
  cases value <;> simp only [isNode, isSchemaRecord, reduceCtorEq] at hnode
  case tuple items =>
    rw [unhashable?] at h
    exact hashable_of_mem_items h
  all_goals
    simp only [unhashable?, Option.or_eq_none_iff] at h
    simp [components, h]

theorem atom?_of_node {value : Value} (h : isNode value = true) : atom? value = none := by
  cases value <;> first | rfl | cases h

theorem equal_of_not_node {left : Value} (h : unhashable? left = none)
    (hnode : isNode left = false) (right : Value) : equal left right = atomEqual left right := by
  cases left <;> simp only [unhashable?, isNode, isSchemaRecord, reduceCtorEq] at h hnode
  all_goals rw [equal] <;> simp

/-- Nodes are equal when they are of one type and their parts are. -/
theorem equal_of_node {left : Value} (h : isNode left = true) (right : Value) :
    equal left right = true ↔
      isNode right = true ∧ left.typeName = right.typeName ∧
        equalItems (components left) (components right) = true := by
  cases left <;> simp only [isNode, isSchemaRecord, reduceCtorEq] at h
  -- The right side is no node, or a node of another type, or a node of the same type.
  all_goals
    cases right <;>
      first
        | exact iff_of_false Bool.false_ne_true fun h => Bool.false_ne_true h.1
        | exact iff_of_false Bool.false_ne_true fun h => absurd h.2.1 (by decide)
        | simp [equal, isNode, isSchemaRecord, typeName, components, equalItems, and_assoc]

/-- Among keys, equality is that of atoms or, part by part, of nodes of one type. -/
theorem equal_eq_true_iff {left right : Value} (h : unhashable? left = none) :
    equal left right = true ↔
      (∃ x, atom? left = some x ∧ atom? right = some x) ∨
        isNode left = true ∧ isNode right = true ∧ left.typeName = right.typeName ∧
          equalItems (components left) (components right) = true := by
  cases hnode : isNode left with
  | true => simp [equal_of_node hnode, atom?_of_node hnode]
  | false => simp [equal_of_not_node h hnode, atomEqual_eq_true_iff]

/-! ## Symmetry and transitivity -/

theorem equalItems_symm {xs ys : List Value}
    (h : ∀ x ∈ xs, ∀ y ∈ ys, equal x y = true → equal y x = true)
    (hequal : equalItems xs ys = true) : equalItems ys xs = true := by
  induction xs generalizing ys with
  | nil => cases ys <;> simp_all [equalItems]
  | cons x xs ih =>
      cases ys with
      | nil => simp [equalItems] at hequal
      | cons y ys =>
          rw [equalItems, Bool.and_eq_true] at hequal ⊢
          refine ⟨h x List.mem_cons_self y List.mem_cons_self hequal.1, ih ?_ hequal.2⟩
          intro x' hx y' hy
          exact h x' (List.mem_cons_of_mem x hx) y' (List.mem_cons_of_mem y hy)

theorem equalItems_trans {xs ys zs : List Value}
    (h : ∀ x ∈ xs, ∀ y ∈ ys, ∀ z, equal x y = true → equal y z = true → equal x z = true)
    (hxy : equalItems xs ys = true) (hyz : equalItems ys zs = true) :
    equalItems xs zs = true := by
  induction xs generalizing ys zs with
  | nil =>
      cases ys <;> cases zs <;> simp_all [equalItems]
  | cons x xs ih =>
      cases ys with
      | nil => simp [equalItems] at hxy
      | cons y ys =>
          cases zs with
          | nil => simp [equalItems] at hyz
          | cons z zs =>
              rw [equalItems, Bool.and_eq_true] at hxy hyz ⊢
              have hhead := h x List.mem_cons_self y List.mem_cons_self z hxy.1 hyz.1
              refine ⟨hhead, ih ?_ hxy.2 hyz.2⟩
              intro x' hx y' hy
              exact h x' (List.mem_cons_of_mem x hx) y' (List.mem_cons_of_mem y hy)

/-- Equality of keys is symmetric. -/
theorem equal_symm {left right : Value} (hleft : unhashable? left = none)
    (hright : unhashable? right = none) (h : equal left right = true) :
    equal right left = true := by
  rcases (equal_eq_true_iff hleft).mp h with ⟨x, hl, hr⟩ | ⟨hnode, hnode', htype, hitems⟩
  · exact (equal_eq_true_iff hright).mpr (.inl ⟨x, hr, hl⟩)
  · refine (equal_eq_true_iff hright).mpr (.inr ⟨hnode', hnode, htype.symm, ?_⟩)
    apply equalItems_symm _ hitems
    intro x hx y hy hxy
    exact equal_symm (hashable_of_mem_components hnode hleft x hx)
      (hashable_of_mem_components hnode' hright y hy) hxy
termination_by sizeOf left
decreasing_by exact sizeOf_lt_of_mem_components hnode hx

/-- Equality of keys is transitive. -/
theorem equal_trans {a b c : Value} (ha : unhashable? a = none) (hb : unhashable? b = none)
    (hab : equal a b = true) (hbc : equal b c = true) : equal a c = true := by
  rcases (equal_eq_true_iff ha).mp hab with ⟨x, hx, hx'⟩ | ⟨hnode, hnode', htype, hitems⟩
  · rcases (equal_eq_true_iff hb).mp hbc with ⟨y, hy, hy'⟩ | ⟨hnode', -⟩
    · cases hx'.symm.trans hy
      exact (equal_eq_true_iff ha).mpr (.inl ⟨x, hx, hy'⟩)
    · exact absurd (hx'.symm.trans (atom?_of_node hnode')) (by simp)
  · rcases (equal_eq_true_iff hb).mp hbc with ⟨y, hy, -⟩ | ⟨-, hnode'', htype', hitems'⟩
    · exact absurd (hy.symm.trans (atom?_of_node hnode')) (by simp)
    · refine (equal_eq_true_iff ha).mpr (.inr ⟨hnode, hnode'', htype.trans htype', ?_⟩)
      apply equalItems_trans _ hitems hitems'
      intro x hx y hy z hxy hyz
      exact equal_trans (hashable_of_mem_components hnode ha x hx)
        (hashable_of_mem_components hnode' hb y hy) hxy hyz
termination_by sizeOf a
decreasing_by exact sizeOf_lt_of_mem_components hnode hx

/-! ## Equal keys -/

theorem hashable_of_items {items : List Value} (h : ∀ item ∈ items, unhashable? item = none) :
    unhashableItem? items = none := by
  induction items with
  | nil => rfl
  | cons x xs ih =>
      rw [unhashableItem?, h x List.mem_cons_self,
        ih fun item hitem => h item (List.mem_cons_of_mem x hitem)]
      rfl

theorem hashable_of_components {value : Value} (hnode : isNode value = true)
    (h : ∀ component ∈ components value, unhashable? component = none) :
    unhashable? value = none := by
  cases value <;> simp only [isNode, isSchemaRecord, reduceCtorEq] at hnode
  case tuple items =>
    rw [unhashable?]
    exact hashable_of_items h
  all_goals
    simp only [components, List.mem_cons, List.not_mem_nil, or_false, forall_eq_or_imp,
      forall_eq] at h
    simp [unhashable?, h]

theorem exists_equal_of_equalItems {xs ys : List Value} (h : equalItems xs ys = true) :
    ∀ x ∈ xs, ∃ y ∈ ys, equal x y = true := by
  induction xs generalizing ys with
  | nil => simp
  | cons x xs ih =>
      cases ys with
      | nil => simp [equalItems] at h
      | cons y ys =>
          rw [equalItems, Bool.and_eq_true] at h
          refine List.forall_mem_cons.mpr ⟨⟨y, List.mem_cons_self, h.1⟩, fun x' hx => ?_⟩
          obtain ⟨y', hy, hequal⟩ := ih h.2 x' hx
          exact ⟨y', List.mem_cons_of_mem y hy, hequal⟩

/-- Only a value that can be a key equals one. -/
theorem hashable_of_equal {left right : Value} (h : equal left right = true)
    (hright : unhashable? right = none) : unhashable? left = none := by
  cases hnode : isNode left with
  | true =>
      obtain ⟨hnode', -, hitems⟩ := (equal_of_node hnode right).mp h
      refine hashable_of_components hnode fun x hx => ?_
      obtain ⟨y, hy, hxy⟩ := exists_equal_of_equalItems hitems x hx
      exact hashable_of_equal hxy (hashable_of_mem_components hnode' hright y hy)
  | false =>
      -- The types without a hash equal only one another.
      cases left <;> simp only [isNode, isSchemaRecord, reduceCtorEq] at hnode
      all_goals try rfl
      all_goals cases right <;> first | cases h | cases hright
termination_by sizeOf left
decreasing_by exact sizeOf_lt_of_mem_components hnode hx

theorem hashable_of_atom {value : Value} {x : Atom} (h : atom? value = some x) :
    unhashable? value = none := by
  cases value <;> first | rfl | cases h

theorem equal_of_atom {left right : Value} {x : Atom} (hleft : atom? left = some x)
    (hright : atom? right = some x) : equal left right = true :=
  (equal_eq_true_iff (hashable_of_atom hleft)).mpr (.inl ⟨x, hleft, hright⟩)

/-- Only a value with the same atom equals a key that is no node. -/
theorem exists_atom_of_equal {left right : Value} (hright : unhashable? right = none)
    (hleaf : isNode right = false) (h : equal left right = true) :
    ∃ x, atom? left = some x ∧ atom? right = some x := by
  rcases (equal_eq_true_iff (hashable_of_equal h hright)).mp h with hatom | ⟨-, hnode, -⟩
  · exact hatom
  · exact absurd (hnode.symm.trans hleaf) (by simp)

section Keys

variable {a b : Value} (ha : unhashable? a = none) (hb : unhashable? b = none)
  (h : equal a b = true)

include ha hb h

theorem equal_left_congr (c : Value) : equal a c = equal b c := by
  rw [Bool.eq_iff_iff]
  exact ⟨fun hac => equal_trans hb ha (equal_symm ha hb h) hac,
    fun hbc => equal_trans ha hb h hbc⟩

theorem equal_right_congr (c : Value) : equal c a = equal c b := by
  rw [Bool.eq_iff_iff]
  constructor
  · exact fun hca => equal_trans (hashable_of_equal hca ha) ha hca h
  · exact fun hcb => equal_trans (hashable_of_equal hcb hb) hb hcb (equal_symm ha hb h)

theorem find?_congr (entries : Entries) : find? entries a = find? entries b := by
  simp only [find?, equal_left_congr ha hb h]

end Keys

/-- A record has a key at one place only. -/
theorem Keyed.place_unique {entries : Entries} (h : Keyed entries) {i j : Nat}
    {e e' : Value × Value} (hi : entries[i]? = some e) (hj : entries[j]? = some e')
    (hequal : equal e.1 e'.1 = true) : i = j := by
  obtain ⟨hhashable, hdistinct⟩ := h
  obtain ⟨hilt, hie⟩ := List.getElem?_eq_some_iff.mp hi
  obtain ⟨hjlt, hje⟩ := List.getElem?_eq_some_iff.mp hj
  have hbelow := List.pairwise_iff_getElem.mp hdistinct
  rcases Nat.lt_trichotomy i j with hlt | hsame | hgt
  · have hne := hbelow i j hilt hjlt hlt
    rw [hie, hje] at hne
    exact absurd (hequal.symm.trans hne) (by simp)
  · exact hsame
  · have hne := hbelow j i hjlt hilt hgt
    rw [hie, hje] at hne
    have hsymm := equal_symm (hhashable e (List.mem_of_getElem? hi))
      (hhashable e' (List.mem_of_getElem? hj)) hequal
    exact absurd (hsymm.symm.trans hne) (by simp)

theorem Keyed.entry_unique {entries : Entries} (h : Keyed entries) {e e' : Value × Value}
    (he : e ∈ entries) (he' : e' ∈ entries) (hequal : equal e.1 e'.1 = true) : e = e' := by
  obtain ⟨i, hi⟩ := List.mem_iff_getElem?.mp he
  obtain ⟨j, hj⟩ := List.mem_iff_getElem?.mp he'
  have hsame := h.place_unique hi hj hequal
  rw [hsame, hj] at hi
  exact (Option.some.inj hi).symm

/-- Looking up a key equal to that of an entry finds this entry. -/
theorem Keyed.find?_of_equal {entries : Entries} (h : Keyed entries) {e : Value × Value}
    {name : Value} (he : e ∈ entries) (hname : unhashable? name = none)
    (hequal : equal e.1 name = true) : find? entries name = some e.2 := by
  have hsymm := equal_symm (h.1 e he) hname hequal
  cases hfound : entries.find? (fun e => equal name e.1) with
  | none => exact absurd hsymm (by simpa using List.find?_eq_none.mp hfound e he)
  | some e' =>
      have he' := List.mem_of_find?_eq_some hfound
      have hmatch : equal name e'.1 = true := by simpa using List.find?_some hfound
      have hsame := h.entry_unique he he' (equal_trans (h.1 e he) hname hequal hmatch)
      simp [find?, hfound, hsame]

theorem Keyed.find?_eq_none {entries : Entries} (h : Keyed entries) {name : Value}
    (hname : unhashable? name = none) (hfree : ∀ e ∈ entries, equal e.1 name = false) :
    find? entries name = none := by
  rw [find?, Option.map_eq_none_iff, List.find?_eq_none]
  intro e he hequal
  have hsymm := equal_symm hname (h.1 e he) hequal
  exact absurd (hsymm.symm.trans (hfree e he)) (by simp)

theorem Keyed.sublist {entries shorter : Entries} (h : Keyed entries)
    (hshorter : shorter.Sublist entries) : Keyed shorter :=
  ⟨fun e he => h.1 e (hshorter.subset he), h.2.sublist hshorter⟩

/-- What one key equals no other key does. -/
theorem Keyed.others_differ {before after : Entries} {e : Value × Value} {name : Value}
    (h : Keyed (before ++ e :: after)) (hname : unhashable? name = none)
    (hequal : equal e.1 name = true) : ∀ f ∈ before ++ after, equal f.1 name = false := by
  obtain ⟨hhashable, hdistinct⟩ := h
  obtain ⟨-, hafter, hbefore⟩ := List.pairwise_append.mp hdistinct
  have he : unhashable? e.1 = none := hhashable e (by simp)
  intro f hf
  rw [← equal_right_congr he hname hequal, Bool.eq_false_iff]
  intro hclash
  rcases List.mem_append.mp hf with hf | hf
  · exact absurd (hclash.symm.trans (hbefore f hf e List.mem_cons_self)) (by simp)
  · have hmem : f ∈ before ++ e :: after :=
      List.mem_append_right before (List.mem_cons_of_mem e hf)
    have hsymm := equal_symm (hhashable f hmem) he hclash
    exact absurd (hsymm.symm.trans ((List.pairwise_cons.mp hafter).1 f hf)) (by simp)

end Conformance.Value
