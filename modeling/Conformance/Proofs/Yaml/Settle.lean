import Conformance.Proofs.Value.Depth
import Conformance.Yaml.Meaning

/-! # Settling the links of a heap

What leads to no cycle is settled, in rounds that go on until nothing changes. So an entry that is
left leads on to one that is left, and what a link into the heap stands for is recursive only where
it has no end.
-/

namespace Conformance.Yaml

open Value (WellLinked held isLinkable link? links mapHeld)

/-- What a collection may hold beside a heap of some size: a link leads into the heap. -/
structure Member (size : Nat) (value : Value) : Prop where
  wellLinked : WellLinked value
  lt : ∀ entry, link? value = some entry → entry < size

/-- A collection in a heap of some size. It is no link itself. -/
structure Entry (size : Nat) (node : Value) : Prop where
  wellLinked : WellLinked node
  not_link : link? node = none
  held : ∀ inner ∈ held node, Member size inner

theorem Member.mono {size bound : Nat} {value : Value} (h : Member size value)
    (hle : size ≤ bound) : Member bound value :=
  ⟨h.wellLinked, fun entry hlink => Nat.lt_of_lt_of_le (h.lt entry hlink) hle⟩

theorem Entry.mono {size bound : Nat} {node : Value} (h : Entry size node) (hle : size ≤ bound) :
    Entry bound node :=
  ⟨h.wellLinked, h.not_link, fun inner hinner => (h.held inner hinner).mono hle⟩

/-! ## Settling -/

/-- What is settled so far is well-linked. -/
structure Settled (heap : Array Value) (plain : Array (Option Value)) : Prop where
  size_eq : plain.size = heap.size
  wellLinked : ∀ (entry : Nat) (value : Value), (plain[entry]?).join = some value →
    WellLinked value ∧ link? value = none

variable {heap : Array Value} {plain : Array (Option Value)} {node value : Value} {entry : Nat}

theorem settle?_eq_none (h : settle? plain value = none) :
    ∃ entry, value = .link entry ∧ (plain[entry]?).join = none := by
  cases value
  case link entry => exact ⟨entry, rfl, h⟩
  all_goals cases h

theorem Settled.settle? (h : Settled heap plain) {inner : Value} (hinner : WellLinked inner)
    (hvalue : settle? plain inner = some value) : WellLinked value := by
  cases inner
  case link entry => exact (h.wellLinked entry value hvalue).1
  all_goals
    cases hvalue
    exact hinner

theorem exists_none_of_mapM {f : α → Option β} {xs : List α} (h : xs.mapM f = none) :
    ∃ x ∈ xs, f x = none := by
  induction xs with
  | nil => cases h
  | cons x xs ih =>
      cases hx : f x with
      | none => exact ⟨x, List.mem_cons_self, hx⟩
      | some y =>
          have hrest : xs.mapM f = none := by
            cases hxs : xs.mapM f with
            | none => rfl
            | some ys => simp [List.mapM_cons, hx, hxs] at h
          obtain ⟨x', hmem, hx'⟩ := ih hrest
          exact ⟨x', List.mem_cons_of_mem x hmem, hx'⟩

theorem exists_of_mem_mapM {f : α → Option β} {xs : List α} {ys : List β}
    (h : xs.mapM f = some ys) : ∀ y ∈ ys, ∃ x ∈ xs, f x = some y := by
  induction xs generalizing ys with
  | nil =>
      cases h
      simp
  | cons x xs ih =>
      cases hx : f x with
      | none => simp [List.mapM_cons, hx] at h
      | some y =>
          cases hxs : xs.mapM f with
          | none => simp [List.mapM_cons, hx, hxs] at h
          | some rest =>
              simp only [List.mapM_cons, hx, hxs, Option.bind_eq_bind, Option.bind_some,
                Option.pure_def, Option.some.injEq] at h
              subst h
              refine List.forall_mem_cons.2 ⟨⟨x, List.mem_cons_self, hx⟩, fun y' hy' => ?_⟩
              obtain ⟨x', hmem, hx'⟩ := ih hxs y' hy'
              exact ⟨x', List.mem_cons_of_mem x hmem, hx'⟩

/-- An entry that cannot be settled yet leads to another that is not settled. -/
theorem exists_link_of_plainOf? (h : plainOf? plain node = none) :
    ∃ entry, .link entry ∈ held node ∧ (plain[entry]?).join = none := by
  cases node <;> simp only [plainOf?, Option.map_eq_none_iff, reduceCtorEq] at h
  case dict entries =>
    obtain ⟨e, he, hnone⟩ := exists_none_of_mapM h
    obtain ⟨entry, hlink, hjoin⟩ := settle?_eq_none (Option.map_eq_none_iff.1 hnone)
    exact ⟨entry, List.mem_map.2 ⟨e, he, hlink⟩, hjoin⟩
  all_goals
    obtain ⟨item, hitem, hnone⟩ := exists_none_of_mapM h
    obtain ⟨entry, rfl, hjoin⟩ := settle?_eq_none hnone
    exact ⟨entry, hitem, hjoin⟩

theorem Settled.plainOf? {size : Nat} (h : Settled heap plain) (hnode : Entry size node)
    (hvalue : plainOf? plain node = some value) : WellLinked value ∧ link? value = none := by
  have hinner : ∀ inner ∈ held node, WellLinked inner := fun inner hmem =>
    (hnode.held inner hmem).wellLinked
  have hitems {items others : List Value} (hwell : ∀ item ∈ items, WellLinked item)
      (hothers : items.mapM (Yaml.settle? plain) = some others) :
      ∀ other ∈ others, WellLinked other := by
    intro other hmem
    obtain ⟨item, hitem, hsome⟩ := exists_of_mem_mapM hothers other hmem
    exact h.settle? (hwell item hitem) hsome
  cases node <;> simp only [Yaml.plainOf?, Option.map_eq_some_iff, Option.some.injEq] at hvalue
  case dict entries =>
    obtain ⟨others, hothers, rfl⟩ := hvalue
    refine ⟨.intro trivial fun component hmem => ?_, rfl⟩
    obtain ⟨e', he', rfl⟩ := List.mem_map.1 hmem
    obtain ⟨e, he, hsome⟩ := exists_of_mem_mapM hothers e' he'
    obtain ⟨settled, hsettled, rfl⟩ := Option.map_eq_some_iff.1 hsome
    exact h.settle? (hinner e.2 (List.mem_map_of_mem he)) hsettled
  case list items =>
    obtain ⟨others, hothers, rfl⟩ := hvalue
    exact ⟨.intro trivial (hitems hinner hothers), rfl⟩
  case tuple items =>
    obtain ⟨others, hothers, rfl⟩ := hvalue
    exact ⟨.intro trivial (hitems hinner hothers), rfl⟩
  all_goals exact hvalue ▸ ⟨hnode.wellLinked, hnode.not_link⟩

/-! ## Rounds of settling -/

/-- One entry settled if it can be. -/
def settleEntry (heap : Array Value) (plain : Array (Option Value)) (entry : Nat) :
    Array (Option Value) :=
  match (plain[entry]?).join with
  | some _ => plain
  | none => plain.setIfInBounds entry (plainOf? plain (heap[entry]?.getD .null))

theorem settleRound_eq_foldl (heap : Array Value) (plain : Array (Option Value)) :
    settleRound heap plain =
      (List.range heap.size).reverse.foldl (settleEntry heap) plain := rfl

def settledCount (plain : Array (Option Value)) : Nat := plain.countP (·.isSome)

/-- Settling one entry changes nothing, or there is one settled entry more. -/
theorem settleEntry_cases (heap : Array Value) (plain : Array (Option Value)) (entry : Nat) :
    settleEntry heap plain entry = plain ∧
        ((plain[entry]?).join = none → entry < plain.size →
          Yaml.plainOf? plain (heap[entry]?.getD .null) = none) ∨
      settledCount (settleEntry heap plain entry) = settledCount plain + 1 := by
  unfold settleEntry
  cases hjoin : (plain[entry]?).join with
  | some value => exact .inl ⟨rfl, nofun⟩
  | none =>
      dsimp only
      by_cases hlt : entry < plain.size
      · have hnone : plain[entry] = none := by
          simpa [Array.getElem?_eq_getElem hlt] using hjoin
        rw [Array.setIfInBounds, dif_pos hlt]
        cases hvalue : Yaml.plainOf? plain (heap[entry]?.getD .null) with
        | none =>
            left
            refine ⟨?_, fun _ _ => rfl⟩
            rw [← hnone, Array.set_getElem_self]
        | some value =>
            right
            rw [settledCount, settledCount, Array.countP_set, hnone]
            rfl
      · left
        exact ⟨Array.setIfInBounds_eq_of_size_le (Nat.le_of_not_lt hlt), fun _ h => absurd h hlt⟩

theorem foldl_settleEntry_cases (heap : Array Value) (entries : List Nat)
    (plain : Array (Option Value)) :
    entries.foldl (settleEntry heap) plain = plain ∧
        (∀ entry ∈ entries, (plain[entry]?).join = none → entry < plain.size →
          Yaml.plainOf? plain (heap[entry]?.getD .null) = none) ∨
      settledCount plain < settledCount (entries.foldl (settleEntry heap) plain) := by
  induction entries generalizing plain with
  | nil => exact .inl ⟨rfl, by simp⟩
  | cons entry entries ih =>
      rw [List.foldl_cons]
      rcases settleEntry_cases heap plain entry with ⟨hsame, hentry⟩ | hmore
      · rw [hsame]
        refine (ih plain).imp_left fun ⟨hrest, hentries⟩ => ⟨hrest, ?_⟩
        exact List.forall_mem_cons.2 ⟨hentry, hentries⟩
      · right
        rcases ih (settleEntry heap plain entry) with ⟨hrest, -⟩ | hrest
        · rw [hrest]
          omega
        · omega

theorem size_settleEntry (heap : Array Value) (plain : Array (Option Value)) (entry : Nat) :
    (settleEntry heap plain entry).size = plain.size := by
  unfold settleEntry
  split
  · rfl
  · exact Array.size_setIfInBounds

theorem size_settleRound (heap : Array Value) (plain : Array (Option Value)) :
    (settleRound heap plain).size = plain.size := by
  rw [settleRound_eq_foldl]
  generalize (List.range heap.size).reverse = entries
  induction entries generalizing plain with
  | nil => rfl
  | cons entry entries ih => rw [List.foldl_cons, ih, size_settleEntry]

def Stable (heap : Array Value) (plain : Array (Option Value)) : Prop :=
  ∀ entry < heap.size, (plain[entry]?).join = none →
    Yaml.plainOf? plain (heap[entry]?.getD .null) = none

/-- Each round settles an entry, so the rounds end before there is none left to settle. -/
theorem stable_settleAll {fuel : Nat} (hsize : plain.size = heap.size)
    (hfuel : heap.size < settledCount plain + fuel) : Stable heap (settleAll heap fuel plain) := by
  induction fuel generalizing plain with
  | zero =>
      have hle : settledCount plain ≤ plain.size := Array.countP_le_size
      omega
  | succ fuel ih =>
      rw [settleAll]
      split
      · rename_i hcount
        intro entry hlt hjoin
        rcases foldl_settleEntry_cases heap (List.range heap.size).reverse plain with
          ⟨-, hentries⟩ | hmore
        · exact hentries entry (by simpa using hlt) hjoin (hsize ▸ hlt)
        · rw [← settleRound_eq_foldl, settledCount, settledCount, hcount] at hmore
          exact absurd hmore (Nat.lt_irrefl _)
      · rename_i hcount
        refine ih ((size_settleRound heap plain).trans hsize) ?_
        rcases foldl_settleEntry_cases heap (List.range heap.size).reverse plain with
          ⟨hsame, -⟩ | hmore
        · rw [← settleRound_eq_foldl] at hsame
          exact absurd (by rw [hsame]) hcount
        · rw [← settleRound_eq_foldl] at hmore
          omega

/-! ## Well-linked plain values -/

section Sound

variable (hheap : ∀ node ∈ heap, Entry heap.size node)

include hheap

theorem Settled.settleEntry (h : Settled heap plain) (entry : Nat) :
    Settled heap (settleEntry heap plain entry) := by
  refine ⟨(size_settleEntry heap plain entry).trans h.size_eq, fun other value hother => ?_⟩
  unfold Yaml.settleEntry at hother
  split at hother
  · exact h.wellLinked other value hother
  · rw [Array.getElem?_setIfInBounds] at hother
    split at hother
    · split at hother
      · rename_i hlt
        rw [h.size_eq] at hlt
        rw [Array.getElem?_eq_getElem hlt] at hother
        exact h.plainOf? (hheap heap[entry] (Array.getElem_mem hlt)) hother
      · cases hother
    · exact h.wellLinked other value hother

theorem Settled.settleRound (h : Settled heap plain) : Settled heap (settleRound heap plain) := by
  rw [settleRound_eq_foldl]
  generalize (List.range heap.size).reverse = entries
  induction entries generalizing plain with
  | nil => exact h
  | cons entry entries ih => exact ih (h.settleEntry hheap entry)

theorem Settled.settleAll (h : Settled heap plain) (fuel : Nat) :
    Settled heap (settleAll heap fuel plain) := by
  induction fuel generalizing plain with
  | zero => exact h
  | succ fuel ih =>
      rw [Yaml.settleAll]
      split
      · exact h
      · exact ih (h.settleRound hheap)

theorem settled_settleAll :
    Settled heap (settleAll heap (heap.size + 1) (Array.replicate heap.size none)) := by
  refine Settled.settleAll hheap ⟨Array.size_replicate, fun entry value hvalue => ?_⟩ _
  rw [Array.getElem?_replicate] at hvalue
  split at hvalue <;> cases hvalue

end Sound

theorem partlyPlain_eq (plain : Array (Option Value)) (node : Value) :
    partlyPlain plain node = if isLinkable node then mapHeld (partly plain) node else node := by
  cases node <;> rfl

/-- What remains a link leads to an entry that is not settled. -/
theorem join_of_partly (h : Settled heap plain) {inner : Value}
    (hlink : partly plain inner = .link entry) :
    inner = .link entry ∧ (plain[entry]?).join = none := by
  unfold partly at hlink
  cases hsettle : settle? plain inner with
  | none =>
      rw [hsettle] at hlink
      obtain ⟨other, rfl, hjoin⟩ := settle?_eq_none hsettle
      cases hlink
      exact ⟨rfl, hjoin⟩
  | some value =>
      rw [hsettle, Option.getD_some] at hlink
      subst hlink
      cases inner
      case link other => exact absurd (h.wellLinked other _ hsettle).2 nofun
      all_goals cases hsettle

theorem Settled.wellLinked_partly (h : Settled heap plain) {inner : Value}
    (hinner : WellLinked inner) : WellLinked (partly plain inner) := by
  unfold partly
  cases hsettle : Yaml.settle? plain inner with
  | none => exact hinner
  | some value => exact h.settle? hinner hsettle

theorem Settled.wellLinked_partlyPlain (h : Settled heap plain) (hnode : WellLinked node) :
    WellLinked (partlyPlain plain node) := by
  rw [partlyPlain_eq]
  split
  · rename_i hlinkable
    have hheld : ∀ inner ∈ held (mapHeld (partly plain) node), WellLinked inner := by
      intro inner hmem
      rw [Value.held_mapHeld] at hmem
      obtain ⟨other, hother, rfl⟩ := List.mem_map.1 hmem
      exact h.wellLinked_partly (hnode.of_mem_held hother)
    cases node <;> cases hlinkable <;> exact .intro trivial hheld
  · exact hnode

/-- The links that are left lead to entries that are not settled. -/
theorem mem_links_partlyPlain (h : Settled heap plain)
    (hentry : entry ∈ links (partlyPlain plain node)) :
    .link entry ∈ held node ∧ (plain[entry]?).join = none := by
  obtain ⟨hlinkable, hheld⟩ := Value.mem_links.1 hentry
  rw [partlyPlain_eq] at hlinkable hheld
  split at hheld
  · rw [Value.held_mapHeld] at hheld
    obtain ⟨inner, hinner, hlink⟩ := List.mem_map.1 hheld
    obtain ⟨rfl, hjoin⟩ := join_of_partly h hlink
    exact ⟨hinner, hjoin⟩
  · rename_i hnot
    rw [if_neg hnot] at hlinkable
    exact absurd hlinkable hnot

/-- An entry that cannot be settled keeps a link. -/
theorem links_partlyPlain_ne_nil (h : plainOf? plain node = none) :
    links (partlyPlain plain node) ≠ [] := by
  obtain ⟨entry, hheld, hjoin⟩ := exists_link_of_plainOf? h
  have hlinkable : isLinkable node = true := by
    cases node <;> first | rfl | cases h
  have hleft : partly plain (.link entry) = .link entry := by
    simp [partly, settle?, hjoin]
  refine List.ne_nil_of_mem (a := entry) (Value.mem_links.2 ?_)
  rw [partlyPlain_eq, if_pos hlinkable, Value.held_mapHeld]
  refine ⟨?_, List.mem_map.2 ⟨.link entry, hheld, hleft⟩⟩
  cases node <;> first | rfl | cases hlinkable

/-- What a heap and a link into it stand for is recursive only where it has no end. -/
theorem wellLinked_unlink (hheap : ∀ node ∈ heap, Entry heap.size node)
    (hvalue : Member heap.size value) : WellLinked (unlink heap value) := by
  cases value
  case link entry =>
    have hsettled := settled_settleAll hheap
    have hstable : Stable heap (settleAll heap (heap.size + 1) (Array.replicate heap.size none)) :=
      stable_settleAll Array.size_replicate (by omega)
    rw [unlink]
    generalize settleAll heap (heap.size + 1) (Array.replicate heap.size none) = plain at *
    split
    · rename_i value hjoin
      exact (hsettled.wellLinked entry value hjoin).1
    · rename_i hjoin
      refine .intro (fun place hplace => ?_) fun component hmem => ?_
      · -- Whichever way a place is led to, it is in the heap and not settled.
        have hleft : place < heap.size ∧ (plain[place]?).join = none := by
          rcases hplace with rfl | ⟨node, hnode, hlink⟩
          · exact ⟨hvalue.lt place rfl, hjoin⟩
          · obtain ⟨inner, hinner, rfl⟩ := List.mem_map.1 hnode
            obtain ⟨hheld, hopen⟩ := mem_links_partlyPlain hsettled hlink
            exact ⟨((hheap inner (Array.mem_toList_iff.1 hinner)).held _ hheld).lt place rfl, hopen⟩
        refine ⟨partlyPlain plain heap[place], ?_, ?_⟩
        · rw [List.getElem?_map, Array.getElem?_toList, Array.getElem?_eq_getElem hleft.1]
          rfl
        · have hstuck := hstable place hleft.1 hleft.2
          rw [Array.getElem?_eq_getElem hleft.1] at hstuck
          exact links_partlyPlain_ne_nil hstuck
      · obtain ⟨node, hnode, rfl⟩ := List.mem_map.1 hmem
        exact hsettled.wellLinked_partlyPlain (hheap node (Array.mem_toList_iff.1 hnode)).wellLinked
  all_goals exact hvalue.wellLinked

end Conformance.Yaml
