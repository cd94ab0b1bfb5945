import Conformance.Proofs.Value.Order
import Mathlib.Data.List.Basic

/-! # When sorting answers

Sorting compares the items with each other and does nothing else that can fault. Items that can be
compared pairwise can be sorted, and numbers can be compared.
-/

namespace Conformance.Value

/-- Any two of the items have an order. -/
def Comparable (good : Placed → Prop) : Prop :=
  ∀ a b, good a → good b → ∃ below, placedBelow a b = .ok below

section Sorting

variable {good : Placed → Prop}

/-- The first run is found, and what it leaves are the other items. -/
theorem takeRun_answers (hgood : Comparable good) (descending : Bool) {last : Placed}
    {items : List Placed} (hlast : good last) (hitems : ∀ item ∈ items, good item) :
    ∃ run after, takeRun descending last items = .ok (run, after) ∧ run ++ after = items := by
  induction items generalizing last with
  | nil => exact ⟨[], [], rfl, rfl⟩
  | cons item rest ih =>
      have hitem : good item := hitems item List.mem_cons_self
      have hrest : ∀ item ∈ rest, good item := fun x hx => hitems x (List.mem_cons_of_mem item hx)
      obtain ⟨below, hbelow⟩ := hgood item last hitem hlast
      obtain ⟨run, after, hrun, hsplit⟩ := ih hitem hrest
      rw [takeRun, hbelow]
      by_cases hcontinues : (below == descending) = true
      · refine ⟨item :: run, after, ?_, congrArg (item :: ·) hsplit⟩
        simp [bind, Except.bind, pure, Except.pure, hcontinues, hrun]
      · refine ⟨[], item :: rest, ?_, rfl⟩
        simp [bind, Except.bind, pure, Except.pure, hcontinues]

theorem insertionPoint_answers (hgood : Comparable good) {sorted : Array Placed} {pivot : Placed}
    (hsorted : ∀ item ∈ sorted, good item) (hpivot : good pivot) (fuel low high : Nat) :
    ∃ point, insertionPoint sorted pivot fuel low high = .ok point := by
  induction fuel generalizing low high with
  | zero => exact ⟨low, rfl⟩
  | succ fuel ih =>
      rw [insertionPoint]
      by_cases hlow : low < high
      · rw [if_pos hlow]
        cases hitem : sorted[(low + high) / 2]? with
        | none => exact ⟨low, by simp [pure, Except.pure, hitem]⟩
        | some item =>
            have hmem : good item := hsorted item (Array.mem_of_getElem? hitem)
            obtain ⟨below, hbelow⟩ := hgood pivot item hpivot hmem
            cases below with
            | true => simpa [bind, Except.bind, hitem, hbelow] using ih low ((low + high) / 2)
            | false =>
                simpa [bind, Except.bind, hitem, hbelow] using ih ((low + high) / 2 + 1) high
      · exact ⟨low, by rw [if_neg hlow]⟩

/-- An insertion brings in nothing but the item inserted. -/
theorem mem_of_mem_inserted {sorted : Array Placed} {pivot item : Placed} {point : Nat}
    (h : item ∈ sorted.take point ++ #[pivot] ++ sorted.drop point) :
    item ∈ sorted ∨ item = pivot := by
  simp only [← Array.mem_toList_iff, Array.toList_append, Array.take_eq_extract,
    Array.drop_eq_extract, Array.toList_extract, List.mem_append, List.mem_singleton] at h ⊢
  rcases h with (h | h) | h
  · exact .inl (List.mem_of_mem_take h)
  · exact .inr h
  · exact .inl (List.mem_of_mem_drop (List.mem_of_mem_take h))

theorem insertAll_answers (hgood : Comparable good) {sorted : Array Placed} {items : List Placed}
    (hsorted : ∀ item ∈ sorted, good item) (hitems : ∀ item ∈ items, good item) :
    ∃ result, insertAll sorted items = .ok result := by
  induction items generalizing sorted with
  | nil => exact ⟨sorted, rfl⟩
  | cons pivot rest ih =>
      have hpivot : good pivot := hitems pivot List.mem_cons_self
      have hrest : ∀ item ∈ rest, good item := fun x hx => hitems x (List.mem_cons_of_mem pivot hx)
      obtain ⟨point, hpoint⟩ :=
        insertionPoint_answers hgood hsorted hpivot (sorted.size + 1) 0 sorted.size
      have hinserted : ∀ item ∈ sorted.take point ++ #[pivot] ++ sorted.drop point, good item := by
        intro item hitem
        rcases mem_of_mem_inserted hitem with hmem | rfl
        · exact hsorted item hmem
        · exact hpivot
      obtain ⟨result, hresult⟩ := ih hinserted hrest
      exact ⟨result, by simpa [insertAll, hpoint, bind, Except.bind] using hresult⟩

/-- Items any two of which have an order can be sorted. -/
theorem sortItems_answers (hgood : Comparable good) {items : List Placed}
    (hitems : ∀ item ∈ items, good item) : ∃ sorted, sortItems items = .ok sorted := by
  match items with
  | [] => exact ⟨[], rfl⟩
  | [item] => exact ⟨[item], rfl⟩
  | a :: b :: rest =>
      have ha : good a := hitems a (by simp)
      have hb : good b := hitems b (by simp)
      have hrest : ∀ item ∈ rest, good item := fun x hx => hitems x (by simp [hx])
      obtain ⟨descending, hdescending⟩ := hgood b a hb ha
      obtain ⟨run, after, hrun, hsplit⟩ := takeRun_answers hgood descending hb hrest
      have hfirst : ∀ item ∈ (if descending then (a :: b :: run).reverse
          else a :: b :: run).toArray, good item := by
        intro item hitem
        have hmem : item ∈ a :: b :: run := by
          cases descending
          · exact List.mem_toArray.mp hitem
          · exact List.mem_reverse.mp (List.mem_toArray.mp hitem)
        refine hitems item ?_
        rw [← hsplit]
        exact List.mem_append_left after hmem
      have hafter : ∀ item ∈ after, good item := fun x hx => hrest x (by simp [← hsplit, hx])
      obtain ⟨sorted, hsorted⟩ := insertAll_answers hgood hfirst hafter
      refine ⟨sorted.toList, ?_⟩
      simp only [sortItems, hdescending, hrun, hsorted, bind, Except.bind, pure, Except.pure]

end Sorting

theorem settled_of_number {value : Value} {a : Number} (h : value.number? = some a) :
    value.settled = value := by
  cases value <;> first | rfl | cases h

theorem comparable_numbers : Comparable fun item => ∃ a, item.value.number? = some a := by
  rintro left right ⟨a, ha⟩ ⟨b, hb⟩
  rw [placedBelow, settled_of_number ha, settled_of_number hb]
  exact ⟨_, compare_of_numbers .below ha hb⟩

theorem isSorted_of_numbers {items : List Value}
    (h : ∀ item ∈ items, ∃ a, item.number? = some a) :
    ∃ sorted, isSorted items = .ok sorted := by
  have hnumbers : ∀ item ∈ placed items, ∃ a, item.value.number? = some a := by
    intro item hitem
    obtain ⟨⟨value, place⟩, hmem, rfl⟩ := List.mem_map.mp hitem
    exact h value (List.fst_mem_of_mem_zipIdx hmem)
  obtain ⟨sorted, hsorted⟩ := sortItems_answers comparable_numbers hnumbers
  exact ⟨_, by rw [isSorted, hsorted]; rfl⟩

theorem iterate_of_items {value : Value} {items : List Value} (h : value.items? = some items) :
    value.iterate = .ok items := by
  unfold items? at h
  unfold iterate
  split at h <;> cases h
  all_goals
    next heq => rw [heq]

end Conformance.Value
