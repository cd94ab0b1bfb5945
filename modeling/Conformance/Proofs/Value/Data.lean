import Conformance.Proofs.Value.Equivalence

/-! # Equality of data

Data are built from scalars, bytes, members of enumerations and the mark of an absent member by
lists, tuples and plain records. Two of them are equal when they fit at every pair of positions
that correspond to each other: where neither has parts they have one atom, elsewhere they have as
many items, or equal keys. So equality of data is symmetric and transitive, and it is reflexive on
data without a NaN.
-/

namespace Conformance.Value

/-- What a value is compared by: its items, as a tuple or as a list of whatever type, its entries,
or the value as a whole. -/
inductive Form
  | sequence (isTuple : Bool) (items : List Value)
  | record (entries : Entries)
  | whole

def form : Value → Form
  | .list items | .listSubtype items => .sequence false items
  | .tuple items => .sequence true items
  | .dict entries => .record entries
  | _ => .whole

def Form.items : Form → List Value
  | .sequence _ items => items
  | _ => []

def Form.entries : Form → Entries
  | .record entries => entries
  | _ => []

def Form.parts : Form → List Value
  | .sequence _ items => items
  | .record entries => entries.map (·.2)
  | .whole => []

def isDatum : Value → Bool
  | .null | .bool _ | .int _ | .float _ | .str _ | .bytes _ | .member _ | .missing => true
  | .list _ | .listSubtype _ | .tuple _ | .dict _ => true
  | _ => false

/-- A datum that is admitted, as are its keys and parts at every depth. -/
inductive Built (admits : Value → Prop) : Value → Prop
  | intro {value : Value} (datum : isDatum value = true) (admitted : admits value)
      (keyed : Keyed (form value).entries)
      (keys : ∀ e ∈ (form value).entries, Built admits e.1)
      (parts : ∀ part ∈ (form value).parts, Built admits part) : Built admits value

abbrev Datum : Value → Prop := Built fun _ => True

abbrev NanFree : Value → Prop := Built (· ≠ .float .nan)

variable {admits admits' admits'' : Value → Prop}

theorem Built.datum {value : Value} (h : Built admits value) : isDatum value = true := by
  cases h with
  | intro datum => exact datum

theorem Built.keyed {value : Value} (h : Built admits value) : Keyed (form value).entries := by
  cases h with
  | intro datum admitted keyed => exact keyed

theorem Built.part {value part : Value} (h : Built admits value)
    (hpart : part ∈ (form value).parts) : Built admits part := by
  cases h with
  | intro datum admitted keyed keys parts => exact parts part hpart

theorem Built.imp {value : Value} (h : Built admits value) (himp : ∀ v, admits v → admits' v) :
    Built admits' value := by
  induction h with
  | intro datum admitted keyed keys parts ihkeys ihparts =>
      exact .intro datum (himp _ admitted) keyed ihkeys ihparts

theorem NanFree.toDatum {value : Value} (h : NanFree value) : Datum value :=
  h.imp fun _ _ => trivial

/-- A datum without keys and parts. -/
theorem Built.of_whole {value : Value} (datum : isDatum value = true) (admitted : admits value)
    (hform : form value = .whole) : Built admits value := by
  have hentries : (form value).entries = [] := by rw [hform]; rfl
  have hparts : (form value).parts = [] := by rw [hform]; rfl
  have hkeyed : Keyed [] := ⟨by simp, .nil⟩
  exact .intro datum admitted (hentries ▸ hkeyed) (by simp [hentries]) (by simp [hparts])

theorem Built.list {items : List Value} (admitted : admits (.list items))
    (h : ∀ item ∈ items, Built admits item) : Built admits (.list items) :=
  .intro rfl admitted ⟨nofun, .nil⟩ nofun h

theorem Built.dict {entries : Entries} (admitted : admits (.dict entries)) (keyed : Keyed entries)
    (h : ∀ e ∈ entries, Built admits e.1 ∧ Built admits e.2) : Built admits (.dict entries) := by
  refine .intro rfl admitted keyed (fun e he => (h e he).1) fun part hpart => ?_
  obtain ⟨e, he, rfl⟩ := List.mem_map.mp hpart
  exact (h e he).2

/-! ## One step of a comparison -/

/-- Two values fit before their parts are looked at. -/
inductive Level (left right : Value) : Prop
  | sequence {isTuple : Bool} {xs ys : List Value} (hleft : form left = .sequence isTuple xs)
      (hright : form right = .sequence isTuple ys) (hlength : xs.length = ys.length) :
      Level left right
  | record {es fs : Entries} (hleft : form left = .record es) (hright : form right = .record fs)
      (hkeys : ∀ e ∈ es, ∃ f ∈ fs, equal e.1 f.1 = true)
      (hkeys' : ∀ f ∈ fs, ∃ e ∈ es, equal e.1 f.1 = true) : Level left right
  | whole {x : Atom} (hleft : atom? left = some x) (hright : atom? right = some x) :
      Level left right

/-- Parts that are compared with each other: items of one place, values under equal keys. -/
inductive Adjacent (left right : Value) : Value → Value → Prop
  | item {i : Nat} {x y : Value} (hleft : (form left).items[i]? = some x)
      (hright : (form right).items[i]? = some y) : Adjacent left right x y
  | entry {e f : Value × Value} (hleft : e ∈ (form left).entries)
      (hright : f ∈ (form right).entries) (hkey : equal e.1 f.1 = true) :
      Adjacent left right e.2 f.2

theorem form_of_atom {value : Value} {x : Atom} (h : atom? value = some x) :
    form value = .whole := by
  cases value <;> first | rfl | cases h

theorem equalItems_eq_true_iff {xs ys : List Value} :
    equalItems xs ys = true ↔ xs.length = ys.length ∧
      ∀ (i : Nat) (x y : Value), xs[i]? = some x → ys[i]? = some y → equal x y = true := by
  induction xs generalizing ys with
  | nil => cases ys <;> simp [equalItems]
  | cons x xs ih =>
      cases ys with
      | nil => simp [equalItems]
      | cons y ys =>
          rw [equalItems, Bool.and_eq_true, ih, List.length_cons, List.length_cons,
            Nat.add_right_cancel_iff]
          constructor
          · rintro ⟨hhead, hlength, htail⟩
            refine ⟨hlength, fun i x' y' hx hy => ?_⟩
            cases i with
            | zero =>
                cases hx
                cases hy
                exact hhead
            | succ i => exact htail i x' y' hx hy
          · rintro ⟨hlength, hitems⟩
            exact ⟨hitems 0 x y rfl rfl, hlength, fun i => hitems (i + 1)⟩

/-- Distinct keys that find an equal one each among as many keys leave none over. -/
theorem Keyed.exists_of_length_eq {es fs : Entries} (hes : Keyed es) (hfs : Keyed fs)
    (hlength : es.length = fs.length) (h : ∀ e ∈ es, ∃ f ∈ fs, equal e.1 f.1 = true) :
    ∀ f ∈ fs, ∃ e ∈ es, equal e.1 f.1 = true := by
  intro f hf
  by_cases hfound : ∃ e ∈ es, equal e.1 f.1 = true
  · exact hfound
  exfalso
  -- Without `f` there are fewer keys on the right, and each of the left ones still finds its own.
  obtain ⟨before, after, rfl⟩ := List.append_of_mem hf
  have hshort : es.length ≤ (before ++ after).length := by
    apply hes.length_le
    · intro f' hf'
      have hmem := List.mem_append.mp hf'
      exact hfs.1 f' (List.mem_append.mpr (hmem.imp_right (List.mem_cons_of_mem f)))
    · intro e he
      obtain ⟨f', hf', hequal⟩ := h e he
      have hne : f' ≠ f := fun hsame => hfound ⟨e, he, hsame ▸ hequal⟩
      have hmem := List.mem_append.mp hf'
      exact ⟨f', List.mem_append.mpr (hmem.imp_right (List.mem_of_ne_of_mem hne)), hequal⟩
  simp only [List.length_append, List.length_cons] at hlength hshort
  omega

/-- Records are equal when their keys match in both directions, with equal values under them. -/
theorem equalRecords_iff {es fs : Entries} (hes : Keyed es) (hfs : Keyed fs) :
    (es.length == fs.length && equalEntries es fs) = true ↔
      (∀ e ∈ es, ∃ f ∈ fs, equal e.1 f.1 = true) ∧
        (∀ f ∈ fs, ∃ e ∈ es, equal e.1 f.1 = true) ∧
        ∀ e ∈ es, ∀ f ∈ fs, equal e.1 f.1 = true → equal e.2 f.2 = true := by
  have hfind : ∀ e ∈ es, ∀ f ∈ fs, equal e.1 f.1 = true → find? fs e.1 = some f.2 := by
    intro e he f hf hkey
    have hsymm := equal_symm (hes.1 e he) (hfs.1 f hf) hkey
    exact hfs.find?_of_equal hf (hes.1 e he) hsymm
  rw [Bool.and_eq_true, beq_iff_eq, equalEntries_eq_all, List.all_eq_true]
  constructor
  · rintro ⟨hlength, hall⟩
    have hkeys : ∀ e ∈ es, ∃ f ∈ fs, equal e.1 f.1 = true := by
      intro e he
      have hfound := hall e he
      cases hvalue : fs.find? fun f => equal e.1 f.1 with
      | none => simp [find?, hvalue] at hfound
      | some f => exact ⟨f, List.mem_of_find?_eq_some hvalue, by simpa using List.find?_some hvalue⟩
    refine ⟨hkeys, hes.exists_of_length_eq hfs hlength hkeys, fun e he f hf hkey => ?_⟩
    have hfound := hall e he
    rwa [hfind e he f hf hkey] at hfound
  · rintro ⟨hkeys, hkeys', hvalues⟩
    have hlength : es.length ≤ fs.length := hes.length_le hfs.1 hkeys
    have hlength' : fs.length ≤ es.length := by
      apply hfs.length_le hes.1
      intro f hf
      obtain ⟨e, he, hkey⟩ := hkeys' f hf
      exact ⟨e, he, equal_symm (hes.1 e he) (hfs.1 f hf) hkey⟩
    refine ⟨Nat.le_antisymm hlength hlength', fun e he => ?_⟩
    obtain ⟨f, hf, hkey⟩ := hkeys e he
    rw [hfind e he f hf hkey]
    exact hvalues e he f hf hkey

/-- Data of different forms are not equal. -/
theorem equal_eq_of_form {left right : Value} (hleft : isDatum left = true)
    (hright : isDatum right = true) :
    equal left right =
      match form left, form right with
      | .sequence s xs, .sequence t ys => s == t && equalItems xs ys
      | .record es, .record fs => es.length == fs.length && equalEntries es fs
      | .whole, .whole => atomEqual left right
      | _, _ => false := by
  cases hform : form left with
  | sequence s xs =>
      cases left <;> cases hform
      all_goals cases right <;> rfl
  | record es =>
      cases left <;> cases hform
      cases right <;> first | rfl | cases hright
  | whole =>
      have hatom : equal left right = atomEqual left right := by
        cases left <;> simp only [form, reduceCtorEq] at hform <;> first | rfl | cases hleft
      rw [hatom]
      cases hform' : form right with
      | whole => rfl
      | sequence t ys =>
          have hnone : atom? right = none := by cases right <;> first | rfl | cases hform'
          simp [Bool.eq_false_iff, atomEqual_eq_true_iff, hnone]
      | record fs =>
          have hnone : atom? right = none := by cases right <;> first | rfl | cases hform'
          simp [Bool.eq_false_iff, atomEqual_eq_true_iff, hnone]

/-- Data are equal when they fit and the parts compared with each other are equal. -/
theorem Built.equal_iff_level {left right : Value} (hleft : Built admits left)
    (hright : Built admits' right) :
    equal left right = true ↔
      Level left right ∧ ∀ x y, Adjacent left right x y → equal x y = true := by
  have hes := hleft.keyed
  have hfs := hright.keyed
  rw [equal_eq_of_form hleft.datum hright.datum]
  constructor
  · intro h
    split at h
    · next s xs t ys hl hr =>
        rw [Bool.and_eq_true, beq_iff_eq, equalItems_eq_true_iff] at h
        obtain ⟨rfl, hlength, hitems⟩ := h
        refine ⟨.sequence hl hr hlength, fun x y hadjacent => ?_⟩
        cases hadjacent with
        | item hx hy =>
            rw [hl] at hx
            rw [hr] at hy
            exact hitems _ x y hx hy
        | entry he =>
            rw [hl] at he
            cases he
    · next es fs hl hr =>
        rw [hl] at hes
        rw [hr] at hfs
        obtain ⟨hkeys, hkeys', hvalues⟩ := (equalRecords_iff hes hfs).mp h
        refine ⟨.record hl hr hkeys hkeys', fun x y hadjacent => ?_⟩
        cases hadjacent with
        | item hx =>
            rw [hl] at hx
            cases hx
        | entry he hf hkey =>
            rw [hl] at he
            rw [hr] at hf
            exact hvalues _ he _ hf hkey
    · next hl hr =>
        obtain ⟨x, hx, hy⟩ := atomEqual_eq_true_iff.mp h
        refine ⟨.whole hx hy, fun x y hadjacent => ?_⟩
        cases hadjacent with
        | item hx =>
            rw [hl] at hx
            cases hx
        | entry he =>
            rw [hl] at he
            cases he
    · cases h
  · rintro ⟨hlevel, hparts⟩
    cases hlevel with
    | sequence hl hr hlength =>
        rw [hl, hr]
        refine Bool.and_eq_true_iff.mpr ⟨beq_self_eq_true _, ?_⟩
        refine equalItems_eq_true_iff.mpr ⟨hlength, fun i x y hx hy => ?_⟩
        exact hparts x y (.item (by rw [hl]; exact hx) (by rw [hr]; exact hy))
    | record hl hr hkeys hkeys' =>
        rw [hl] at hes
        rw [hr] at hfs
        rw [hl, hr]
        refine (equalRecords_iff hes hfs).mpr ⟨hkeys, hkeys', fun e he f hf hkey => ?_⟩
        exact hparts e.2 f.2 (.entry (by rw [hl]; exact he) (by rw [hr]; exact hf) hkey)
    | whole hl hr =>
        rw [form_of_atom hl, form_of_atom hr]
        exact atomEqual_eq_true_iff.mpr ⟨_, hl, hr⟩

/-! ## Symmetry, transitivity, reflexivity -/

theorem Adjacent.mem_parts {left right x y : Value} (h : Adjacent left right x y) :
    x ∈ (form left).parts ∧ y ∈ (form right).parts := by
  cases h with
  | item hx hy =>
      constructor
      · cases hl : form left <;> simp only [hl, Form.items, List.getElem?_nil, reduceCtorEq] at hx
        exact List.mem_of_getElem? hx
      · cases hr : form right <;> simp only [hr, Form.items, List.getElem?_nil, reduceCtorEq] at hy
        exact List.mem_of_getElem? hy
  | entry he hf hkey =>
      constructor
      · cases hl : form left <;> simp only [hl, Form.entries, List.not_mem_nil] at he
        exact List.mem_map.mpr ⟨_, he, rfl⟩
      · cases hr : form right <;> simp only [hr, Form.entries, List.not_mem_nil] at hf
        exact List.mem_map.mpr ⟨_, hf, rfl⟩

theorem Level.symm {left right : Value} (hleft : Built admits left) (hright : Built admits' right)
    (h : Level left right) : Level right left := by
  have hes := hleft.keyed
  have hfs := hright.keyed
  cases h with
  | sequence hl hr hlength => exact .sequence hr hl hlength.symm
  | record hl hr hkeys hkeys' =>
      rw [hl] at hes
      rw [hr] at hfs
      refine .record hr hl (fun f hf => ?_) fun e he => ?_
      · obtain ⟨e, he, hkey⟩ := hkeys' f hf
        exact ⟨e, he, Value.equal_symm (hes.1 e he) (hfs.1 f hf) hkey⟩
      · obtain ⟨f, hf, hkey⟩ := hkeys e he
        exact ⟨f, hf, Value.equal_symm (hes.1 e he) (hfs.1 f hf) hkey⟩
  | whole hl hr => exact .whole hr hl

theorem Adjacent.symm {left right x y : Value} (hleft : Built admits left)
    (hright : Built admits' right) (h : Adjacent left right x y) : Adjacent right left y x := by
  cases h with
  | item hx hy => exact .item hy hx
  | entry he hf hkey =>
      exact .entry hf he (Value.equal_symm (hleft.keyed.1 _ he) (hright.keyed.1 _ hf) hkey)

/-- Equality of data is symmetric. -/
theorem Built.equal_symm {left right : Value} (hleft : Built admits left)
    (hright : Built admits' right) (h : equal left right = true) : equal right left = true := by
  induction hleft generalizing right with
  | @intro left datum admitted keyed keys parts ihkeys ihparts =>
      have hleft : Built admits left := .intro datum admitted keyed keys parts
      obtain ⟨hlevel, hequal⟩ := (hleft.equal_iff_level hright).mp h
      refine (hright.equal_iff_level hleft).mpr ⟨hlevel.symm hleft hright, fun y x hback => ?_⟩
      have hadjacent := hback.symm hright hleft
      obtain ⟨hx, hy⟩ := hadjacent.mem_parts
      exact ihparts x hx (hright.part hy) (hequal x y hadjacent)

/-- What fits the same value fits. -/
theorem Level.trans {a b c : Value} (ha : Built admits a) (hb : Built admits' b)
    (hab : Level a b) (hbc : Level b c) : Level a c := by
  have hes := ha.keyed
  have hfs := hb.keyed
  cases hab with
  | sequence hl hm hlength =>
      cases hbc with
      | sequence hm' hr hlength' =>
          cases hm.symm.trans hm'
          exact .sequence hl hr (hlength.trans hlength')
      | record hm' => cases hm.symm.trans hm'
      | whole hm' => cases hm.symm.trans (form_of_atom hm')
  | record hl hm hkeys hkeys' =>
      cases hbc with
      | sequence hm' => cases hm.symm.trans hm'
      | record hm' hr hnext hnext' =>
          cases hm.symm.trans hm'
          rw [hl] at hes
          rw [hm] at hfs
          refine .record hl hr (fun e he => ?_) fun g hg => ?_
          · obtain ⟨f, hf, hkey⟩ := hkeys e he
            obtain ⟨g, hg, hkey'⟩ := hnext f hf
            exact ⟨g, hg, Value.equal_trans (hes.1 e he) (hfs.1 f hf) hkey hkey'⟩
          · obtain ⟨f, hf, hkey'⟩ := hnext' g hg
            obtain ⟨e, he, hkey⟩ := hkeys' f hf
            exact ⟨e, he, Value.equal_trans (hes.1 e he) (hfs.1 f hf) hkey hkey'⟩
      | whole hm' => cases hm.symm.trans (form_of_atom hm')
  | whole hl hm =>
      cases hbc with
      | sequence hm' => cases (form_of_atom hm).symm.trans hm'
      | record hm' => cases (form_of_atom hm).symm.trans hm'
      | whole hm' hr =>
          cases hm.symm.trans hm'
          exact .whole hl hr

/-- Parts of two values that are compared with each other are compared with one and the same part
of a third value that fits the first. -/
theorem Adjacent.between {a b c x z : Value} (ha : Built admits a) (hb : Built admits' b)
    (hab : Level a b) (h : Adjacent a c x z) : ∃ y, Adjacent a b x y ∧ Adjacent b c y z := by
  have hes := ha.keyed
  have hfs := hb.keyed
  cases h with
  | @item i _ _ hx hz =>
      cases hab with
      | @sequence isTuple xs ys hl hm hlength =>
          have hlt : i < ys.length := by
            rw [hl] at hx
            rw [← hlength]
            exact (List.getElem?_eq_some_iff.mp hx).1
          have hy : (form b).items[i]? = some ys[i] := by
            rw [hm]
            exact List.getElem?_eq_getElem hlt
          exact ⟨ys[i], .item hx hy, .item hy hz⟩
      | record hl =>
          rw [hl] at hx
          cases hx
      | whole hl =>
          rw [form_of_atom hl] at hx
          cases hx
  | @entry e g he hg hkey =>
      cases hab with
      | sequence hl =>
          rw [hl] at he
          cases he
      | @record es fs hl hm hkeys =>
          have hmem : e ∈ es := by rwa [hl] at he
          obtain ⟨f, hf, hkey'⟩ := hkeys e hmem
          have hf' : f ∈ (form b).entries := by rwa [hm]
          have hback := Value.equal_symm (hes.1 e he) (hfs.1 f hf') hkey'
          have hnext := Value.equal_trans (hfs.1 f hf') (hes.1 e he) hback hkey
          exact ⟨f.2, .entry he hf' hkey', .entry hf' hg hnext⟩
      | whole hl =>
          rw [form_of_atom hl] at he
          cases he

/-- Equality of data is transitive. -/
theorem Built.equal_trans {a b c : Value} (ha : Built admits a) (hb : Built admits' b)
    (hc : Built admits'' c) (hab : equal a b = true) (hbc : equal b c = true) :
    equal a c = true := by
  induction ha generalizing b c with
  | @intro a datum admitted keyed keys parts ihkeys ihparts =>
      have ha : Built admits a := .intro datum admitted keyed keys parts
      obtain ⟨hlevel, hequal⟩ := (ha.equal_iff_level hb).mp hab
      obtain ⟨hlevel', hequal'⟩ := (hb.equal_iff_level hc).mp hbc
      refine (ha.equal_iff_level hc).mpr ⟨hlevel.trans ha hb hlevel', fun x z hadjacent => ?_⟩
      obtain ⟨y, hxy, hyz⟩ := hadjacent.between ha hb hlevel
      have hx := hxy.mem_parts.1
      obtain ⟨hy, hz⟩ := hyz.mem_parts
      exact ihparts x hx (hb.part hy) (hc.part hz) (hequal x y hxy) (hequal' y z hyz)

theorem exists_mark {value : Value} {a : Number} (hne : value ≠ .float .nan)
    (h : value.number? = some a) : ∃ mark, a.mark? = some mark := by
  cases a with
  | int n => exact ⟨_, rfl⟩
  | float x =>
      cases x with
      | infinite negative => exact ⟨_, rfl⟩
      | finite negative magnitude fits => exact ⟨_, rfl⟩
      | nan =>
          cases value <;> simp only [number?, Option.some.injEq, reduceCtorEq] at h
          case float x =>
            cases h
            exact absurd rfl hne
          case member m =>
            cases hbase : m.base <;> cases hvalue : m.value <;> simp [hbase, hvalue] at h

/-- A datum without parts has an atom unless it is a NaN. -/
theorem exists_atom {value : Value} (hdatum : isDatum value = true) (hne : value ≠ .float .nan)
    (hform : form value = .whole) : ∃ x, atom? value = some x := by
  cases hnumber : value.number? with
  | some a =>
      obtain ⟨mark, hmark⟩ := exists_mark hne hnumber
      rw [atom?_of_number hnumber, hmark]
      exact ⟨_, rfl⟩
  | none =>
      cases htext : value.text? with
      | some s => exact ⟨_, atom?_of_text htext⟩
      | none =>
          rw [atom?_of_plain hnumber htext]
          cases value <;>
            simp only [isDatum, form, number?, text?, reduceCtorEq] at hdatum hform hnumber htext
          all_goals exact ⟨_, rfl⟩

/-- Data without a NaN equal themselves. -/
theorem NanFree.equal_self {value : Value} (h : NanFree value) : equal value value = true := by
  induction h with
  | @intro value datum admitted keyed keys parts ihkeys ihparts =>
      have hvalue : NanFree value := .intro datum admitted keyed keys parts
      refine (hvalue.equal_iff_level hvalue).mpr ⟨?_, fun x y hadjacent => ?_⟩
      · cases hform : form value with
        | sequence isTuple items => exact .sequence hform hform rfl
        | record entries =>
            rw [hform] at ihkeys
            exact .record hform hform (fun e he => ⟨e, he, ihkeys e he⟩)
              fun e he => ⟨e, he, ihkeys e he⟩
        | whole =>
            obtain ⟨x, hx⟩ := exists_atom datum admitted hform
            exact .whole hx hx
      · have hsame : x = y := by
          cases hadjacent with
          | item hx hy => exact Option.some.inj (hx.symm.trans hy)
          | entry he hf hkey => rw [keyed.entry_unique he hf hkey]
        rw [← hsame]
        exact ihparts x hadjacent.mem_parts.1

/-! ## Corresponding positions -/

/-- What stands in two values at positions that correspond to each other, from the values
themselves down to their innermost parts. -/
inductive Counterpart : Value → Value → Value → Value → Prop
  | root {left right : Value} : Counterpart left right left right
  | part {left right x y x' y' : Value} (hpart : Adjacent left right x y)
      (rest : Counterpart x y x' y') : Counterpart left right x' y'

/-- Data are equal when they fit at all corresponding positions. -/
theorem Built.equal_iff_counterparts {left right : Value} (hleft : Built admits left)
    (hright : Built admits' right) :
    equal left right = true ↔ ∀ x y, Counterpart left right x y → Level x y := by
  induction hleft generalizing right with
  | @intro left datum admitted keyed keys parts ihkeys ihparts =>
      have hleft : Built admits left := .intro datum admitted keyed keys parts
      have hparts : ∀ x y, Adjacent left right x y →
          (equal x y = true ↔ ∀ x' y', Counterpart x y x' y' → Level x' y') :=
        fun x y hpart => ihparts x hpart.mem_parts.1 (hright.part hpart.mem_parts.2)
      rw [hleft.equal_iff_level hright]
      constructor
      · rintro ⟨hlevel, hequal⟩ x' y' hcounterpart
        cases hcounterpart with
        | root => exact hlevel
        | part hpart rest => exact (hparts _ _ hpart).mp (hequal _ _ hpart) x' y' rest
      · intro hall
        refine ⟨hall _ _ .root, fun x y hpart => (hparts x y hpart).mpr ?_⟩
        exact fun x' y' rest => hall x' y' (.part hpart rest)

/-- A truth value meets a number. -/
def Coerced (left right : Value) : Prop :=
  left.kind? = some .boolean ∧ right.kind? = some .number ∨
    left.kind? = some .number ∧ right.kind? = some .boolean

/-- The kinds of the values that have an atom. Truth values and numbers share theirs. -/
def Atom.kinds : Atom → List (Option Kind)
  | .number _ => [some .boolean, some .number]
  | .text _ => [some .string]
  | _ => [none]

theorem kind?_of_number {value : Value} {a : Number} (h : value.number? = some a) :
    value.kind? = some .boolean ∨ value.kind? = some .number := by
  cases value <;> simp only [number?, reduceCtorEq] at h
  case member m =>
    right
    cases hbase : m.base <;> cases hvalue : m.value <;> simp_all [kind?]
  all_goals simp [kind?]

theorem eq_bool_of_kind {value : Value} (h : value.kind? = some .boolean) :
    ∃ b, value = .bool b := by
  cases value <;> simp only [kind?, Option.some.injEq, reduceCtorEq] at h
  case bool b => exact ⟨b, rfl⟩
  case member m => cases hbase : m.base <;> cases hvalue : m.value <;> simp_all

theorem kind?_of_text {value : Value} {s : String} (h : value.text? = some s) :
    value.kind? = some .string := by
  cases value <;> simp only [text?, reduceCtorEq] at h
  case member m => cases hbase : m.base <;> cases hvalue : m.value <;> simp_all [kind?]
  all_goals rfl

theorem kind?_eq_none {value : Value} (hnumber : value.number? = none)
    (htext : value.text? = none) : value.kind? = none := by
  cases value <;> simp only [number?, text?, reduceCtorEq] at hnumber htext
  case member m => cases hbase : m.base <;> cases hvalue : m.value <;> simp_all [kind?]
  all_goals rfl

theorem kind?_mem_kinds {value : Value} {x : Atom} (h : atom? value = some x) :
    value.kind? ∈ x.kinds := by
  cases hnumber : value.number? with
  | some a =>
      rw [atom?_of_number hnumber] at h
      obtain ⟨mark, -, rfl⟩ := Option.map_eq_some_iff.mp h
      rcases kind?_of_number hnumber with hkind | hkind <;> simp [Atom.kinds, hkind]
  | none =>
      cases htext : value.text? with
      | some s =>
          rw [atom?_of_text htext] at h
          cases h
          simp [Atom.kinds, kind?_of_text htext]
      | none =>
          have hplain := h
          rw [atom?_of_plain hnumber htext] at hplain
          obtain ⟨hne, hne'⟩ := plainAtom?_ne hplain
          have hkind := kind?_eq_none hnumber htext
          cases x
          case number mark => exact absurd rfl (hne mark)
          case text s => exact absurd rfl (hne' s)
          all_goals simp [Atom.kinds, hkind]

/-- What fits is of one kind, unless a truth value meets a number. -/
theorem Level.kinds {left right : Value} (h : Level left right) :
    left.kind? = right.kind? ∨ Coerced left right := by
  have hnone : ∀ {value : Value}, form value ≠ .whole → value.kind? = none := by
    intro value hform
    cases value <;> first | rfl | exact absurd rfl hform
  cases h with
  | sequence hl hr => exact .inl ((hnone (by simp [hl])).trans (hnone (by simp [hr])).symm)
  | record hl hr => exact .inl ((hnone (by simp [hl])).trans (hnone (by simp [hr])).symm)
  | @whole x hl hr =>
      have hleft := kind?_mem_kinds hl
      have hright := kind?_mem_kinds hr
      cases x <;> simp only [Atom.kinds, List.mem_cons, List.not_mem_nil, or_false] at hleft hright
      case number mark =>
        rcases hleft with hleft | hleft <;> rcases hright with hright | hright <;>
          simp [Coerced, hleft, hright]
      all_goals exact .inl (hleft.trans hright.symm)

end Conformance.Value
