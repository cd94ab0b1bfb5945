import Conformance.Proofs.Yaml.Meaning
import Conformance.Proofs.Yaml.Settle
import Conformance.Yaml.Document

/-! # Documents that contain themselves

While values are made, collections are entries of a heap and lead to each other by links. The heap
only grows, and a link never leads out of it, so the value of a document is recursive only where it
has no end.
-/

namespace Conformance.Yaml

open Value (WellLinked held link?)

/-- The values that are known and the entries of the heap lead into the heap only. -/
structure Making.Sound (s : Making) : Prop where
  made : ∀ (place : Nat) (value : Value), (s.made[place]?).join = some value →
    Member s.heap.size value
  heap : ∀ node ∈ s.heap, Entry s.heap.size node

/-- A step keeps states sound and the heap from shrinking, and gives something that is good beside
the heap it leaves. The heap is known to have some size before. -/
def Makes (size : Nat) (good : Nat → α → Prop) (step : Make α) : Prop :=
  ∀ s, s.Sound → size ≤ s.heap.size →
    Ends (fun _ => True)
      (fun r => r.2.Sound ∧ s.heap.size ≤ r.2.heap.size ∧ good r.2.heap.size r.1) (step s)

section Steps

variable {size : Nat} {good : Nat → α → Prop} {good' : Nat → β → Prop}

theorem makes_pure {a : α} (h : ∀ bound, size ≤ bound → good bound a) :
    Makes size good (pure a) := fun _ hs hsize => .pure ⟨hs, Nat.le_refl _, h _ hsize⟩

theorem Makes.bind {step : Make α} {next : α → Make β} (h : Makes size good step)
    (hnext : ∀ a bound, size ≤ bound → good bound a → Makes bound good' (next a)) :
    Makes size good' (step >>= next) := by
  intro s hs hsize
  refine (h s hs hsize).bind fun r ⟨hsound, hgrown, hgood⟩ => ?_
  refine (hnext r.1 _ (Nat.le_trans hsize hgrown) hgood r.2 hsound (Nat.le_refl _)).imp
    (fun _ h => h) fun r' ⟨hsound', hgrown', hgood'⟩ => ?_
  exact ⟨hsound', Nat.le_trans hgrown hgrown', hgood'⟩

theorem Makes.raise {step : Make α} {bound : Nat} (h : Makes size good step)
    (hle : size ≤ bound) : Makes bound good step :=
  fun s hs hsize => h s hs (Nat.le_trans hle hsize)

theorem makes_fail : Makes size good (Make.fail : Make α) := fun _ _ _ => .error trivial

theorem makes_get_bind {next : Making → Make β}
    (h : ∀ s, s.Sound → size ≤ s.heap.size → Makes s.heap.size good' (next s)) :
    Makes size good' (get >>= next) := fun s hs hsize => h s hs hsize s hs (Nat.le_refl _)

theorem makes_modify {f : Making → Making}
    (h : ∀ s, s.Sound → size ≤ s.heap.size → (f s).Sound ∧ s.heap.size ≤ (f s).heap.size) :
    Makes size (fun _ _ => True) (modify f : Make PUnit) :=
  fun s hs hsize => .pure ⟨(h s hs hsize).1, (h s hs hsize).2, trivial⟩

theorem makes_reading {reading : Reading α}
    (h : Ends (fun _ => True) (fun a => ∀ bound, good bound a) reading) :
    Makes size good (liftM reading : Make α) :=
  fun _ hs _ => h.bind fun _ ha => .pure ⟨hs, Nat.le_refl _, ha _⟩

/-- A step whose result does not matter, by the invariants that it keeps. -/
theorem Makes.of_keeps {step : Make α}
    (h : ∀ bound, Keeps (fun s => s.Sound ∧ bound ≤ s.heap.size) step) :
    Makes size (fun _ _ => True) step := fun s hs _ =>
  (h s.heap.size s ⟨hs, Nat.le_refl _⟩).imp (fun _ _ => trivial) fun _ hr => ⟨hr.1, hr.2, trivial⟩

theorem Makes.mapM {f : α → Make β} {xs : List α}
    (hmono : ∀ low high b, low ≤ high → good' low b → good' high b)
    (h : ∀ x ∈ xs, Makes size good' (f x)) :
    Makes size (fun bound ys => ∀ y ∈ ys, good' bound y) (xs.mapM f) := by
  induction xs generalizing size with
  | nil =>
      rw [List.mapM_nil]
      exact makes_pure (by simp)
  | cons x xs ih =>
      rw [List.mapM_cons]
      refine (h x List.mem_cons_self).bind fun y bound hbound hy => ?_
      refine (ih fun x' hx => (h x' (List.mem_cons_of_mem x hx)).raise hbound).bind
        fun ys bound' hbound' hys => makes_pure fun last hlast => ?_
      refine List.forall_mem_cons.2 ⟨hmono _ _ y (Nat.le_trans hbound' hlast) hy, ?_⟩
      exact fun y' hy' => hmono _ _ y' hlast (hys y' hy')

theorem Makes.forM {f : α → Make PUnit} {xs : List α}
    (h : ∀ x ∈ xs, Makes size (fun _ _ => True) (f x)) :
    Makes size (fun _ _ => True) (xs.forM f) := by
  induction xs generalizing size with
  | nil => exact makes_pure fun _ _ => trivial
  | cons x xs ih =>
      refine (h x List.mem_cons_self).bind fun _ bound hbound _ => ?_
      exact ih fun x' hx => (h x' (List.mem_cons_of_mem x hx)).raise hbound

theorem Makes.foldlM {f : β → α → Make β} {xs : List α}
    (hmono : ∀ low high b, low ≤ high → good' low b → good' high b)
    (h : ∀ x ∈ xs, ∀ b bound, size ≤ bound → good' bound b → Makes bound good' (f b x)) {b : β}
    (hb : good' size b) : Makes size good' (xs.foldlM f b) := by
  induction xs generalizing size b with
  | nil => exact makes_pure fun bound hle => hmono _ _ b hle hb
  | cons x xs ih =>
      rw [List.foldlM_cons]
      refine (h x List.mem_cons_self b size (Nat.le_refl _) hb).bind fun b' bound hbound hb' => ?_
      refine ih (fun x' hx b bound' hle => ?_) hb'
      exact h x' (List.mem_cons_of_mem x hx) b bound' (Nat.le_trans hbound hle)

end Steps

theorem Making.Sound.withGraph {s : Making} {graph : Graph} (h : s.Sound) :
    { s with graph := graph }.Sound := ⟨h.made, h.heap⟩

theorem member_of_flat {value : Value} {size : Nat} (hown : Value.LeadsOn value)
    (hcomponents : Value.components value = []) (hlink : link? value = none) :
    Member size value := by
  refine ⟨.intro hown (by simp [hcomponents]), fun entry hentry => ?_⟩
  rw [hlink] at hentry
  cases hentry

theorem entry_of_held {node : Value} {size : Nat} (hown : Value.LeadsOn node)
    (hcomponents : Value.components node = held node) (hlink : link? node = none)
    (h : ∀ inner ∈ held node, Member size inner) : Entry size node :=
  ⟨.intro hown fun inner hinner => (h inner (hcomponents ▸ hinner)).wellLinked, hlink, h⟩

theorem member_link {size entry : Nat} (h : entry < size) : Member size (.link entry) := by
  refine ⟨.intro trivial (by simp [Value.components]), fun other hother => ?_⟩
  cases hother
  exact h

namespace Make

variable {size : Nat}

theorem makes_allocate {value : Value} (h : Entry size value) :
    Makes size (fun bound entry => entry < bound) (allocate value) := by
  intro s hs hsize
  refine .pure ⟨⟨fun place other hother => ?_, fun node hnode => ?_⟩, ?_, ?_⟩
  · exact (hs.made place other hother).mono (by simp)
  · rcases Array.mem_push.1 hnode with hnode | rfl
    · exact (hs.heap node hnode).mono (by simp)
    · exact h.mono (by simp; omega)
  · simp
  · simp

theorem makes_fill {entry : Nat} {value : Value} (h : Entry size value) :
    Makes size (fun _ _ => True) (fill entry value) := by
  refine makes_modify fun s hs hsize => ⟨⟨fun place other hother => ?_, fun node hnode => ?_⟩, ?_⟩
  · simpa using hs.made place other hother
  · dsimp only at hnode ⊢
    rw [Array.size_setIfInBounds]
    rcases Array.mem_or_eq_of_mem_setIfInBounds hnode with hnode | rfl
    · exact hs.heap node hnode
    · exact h.mono hsize
  · simp

theorem makes_note {place : Nat} {value : Value} (h : Member size value) :
    Makes size Member (do
      modify fun s : Making => { s with made := s.made.setIfInBounds place (some value) }
      return value : Make Value) := by
  refine Makes.bind (makes_modify fun s hs hsize => ?_) fun _ bound hbound _ =>
    makes_pure fun last hlast => h.mono (Nat.le_trans hbound hlast)
  refine ⟨⟨fun other made hmade => ?_, hs.heap⟩, Nat.le_refl _⟩
  dsimp only at hmade ⊢
  rw [Array.getElem?_setIfInBounds] at hmade
  split at hmade
  · split at hmade
    · cases hmade
      exact h.mono hsize
    · cases hmade
  · exact hs.made other made hmade

end Make

/-! ## Scalars -/

theorem member_of_readTimestamp (text : List Char) :
    Ends (fun _ => True) (fun value => ∀ size, Member size value) (readTimestamp text) := by
  unfold readTimestamp
  split
  · exact .error trivial
  · refine .mapError ?_
    dsimp only
    split
    · exact .map (.always (fun _ => trivial) fun _ _ => member_of_flat trivial rfl rfl)
    · have hany {α : Type} (result : Except ValueFault α) :
          Ends (fun _ => True) (fun _ => True) result := .always (fun _ => trivial) fun _ => trivial
      refine (hany _).bind fun offset _ => (hany _).bind fun date _ => ?_
      exact (hany _).bind fun moment _ => .pure fun _ => member_of_flat trivial rfl rfl

/-- The tags of scalars make values that neither hold anything nor lead anywhere. -/
theorem member_of_scalarReader? {tag : String} {read : String → Reading Value}
    (hread : scalarReader? tag = some read) (text : String) :
    Ends (fun _ => True) (fun value => ∀ size, Member size value) (read text) := by
  unfold scalarReader? at hread
  split at hread
  · cases hread
    exact .ok fun _ => member_of_flat trivial rfl rfl
  split at hread
  · cases hread
    exact .ok fun _ => member_of_flat trivial rfl rfl
  split at hread
  · cases hread
    unfold readTruth
    dsimp only
    split
    · exact .ok fun _ => member_of_flat trivial rfl rfl
    · exact .error trivial
  split at hread
  · cases hread
    unfold readInteger
    split
    · exact .error trivial
    · refine Ends.bind (.always (fun _ => trivial) fun _ => trivial) fun n _ => .pure fun _ => ?_
      exact member_of_flat trivial rfl rfl
  split at hread
  · cases hread
    unfold readDouble
    split
    · exact .error trivial
    · refine .ite (.pure fun _ => ?_) (.ite (.pure fun _ => ?_) ?_)
      · exact member_of_flat trivial rfl rfl
      · exact member_of_flat trivial rfl rfl
      · refine Ends.bind (.always (fun _ => trivial) fun _ => trivial) fun x _ => .pure fun _ => ?_
        exact member_of_flat trivial rfl rfl
  split at hread
  · cases hread
    unfold readBytes
    refine .ite ?_ (.error trivial)
    split
    · exact .ok fun _ => member_of_flat trivial rfl rfl
    · exact .error trivial
  split at hread
  · obtain rfl := Option.some.inj hread
    exact .mapError (member_of_readTimestamp text.toList)
  · cases hread

namespace Make

variable {size : Nat}

theorem makes_scalarValue (place : Nat) (node : Node) :
    Makes size Member (scalarValue place node) := by
  unfold scalarValue
  split
  · exact makes_fail
  · rename_i read hread
    refine makes_get_bind fun s _ _ => ?_
    refine (Makes.of_keeps fun bound => keeps_textOf _ _).bind fun text bound _ _ => ?_
    have hvalue : Makes bound Member (liftM (read text) : Make Value) :=
      makes_reading (member_of_scalarReader? hread text)
    split
    · exact hvalue
    · split
      · exact makes_reading (.error trivial)
      · exact hvalue

theorem entry_empty (collection : Collection) : Entry size collection.empty := by
  cases collection <;> exact entry_of_held trivial rfl rfl (by simp [Collection.empty, held])

theorem makes_valueOf (place : Nat) : Makes size Member (valueOf place) := by
  refine makes_get_bind fun s hs _ => ?_
  split
  · rename_i value hvalue
    exact makes_pure fun bound hbound => (hs.made place value hvalue).mono hbound
  · refine (Makes.of_keeps fun bound => keeps_node place).bind fun node bound _ _ => ?_
    split
    · refine (makes_allocate (entry_empty _)).bind fun entry bound' _ hentry => ?_
      refine Makes.bind (makes_modify fun s hs hsize => ⟨⟨hs.made, hs.heap⟩, Nat.le_refl _⟩)
        fun _ bound'' hbound _ => ?_
      exact makes_note (member_link (Nat.lt_of_lt_of_le hentry hbound))
    · exact (makes_scalarValue place node).bind fun value bound' _ hvalue => makes_note hvalue

/-! ## Collections -/

/-- Keys and values that a collection may hold. -/
def Stored (size : Nat) (stored : List (Key × Value)) : Prop :=
  ∀ e ∈ stored, Member size e.1.value ∧ Member size e.2

theorem Stored.mono {bound : Nat} {stored : List (Key × Value)} (h : Stored size stored)
    (hle : size ≤ bound) : Stored bound stored := fun e he =>
  ⟨(h e he).1.mono hle, (h e he).2.mono hle⟩

theorem Stored.storeEntry {stored : List (Key × Value)} {key : Key} {value : Value}
    (h : Stored size stored) (hkey : Member size key.value) (hvalue : Member size value) :
    Stored size (storeEntry stored key value) := by
  induction stored with
  | nil => exact List.forall_mem_singleton.2 ⟨hkey, hvalue⟩
  | cons first rest ih =>
      obtain ⟨hfirst, hrest⟩ := List.forall_mem_cons.1 h
      obtain ⟨k, v⟩ := first
      unfold Make.storeEntry
      split
      · exact List.forall_mem_cons.2 ⟨⟨hfirst.1, hvalue⟩, hrest⟩
      · exact List.forall_mem_cons.2 ⟨hfirst, ih hrest⟩

theorem makes_keyOf (place : Nat) :
    Makes size (fun bound key => Member bound key.value) (keyOf place) := by
  refine (makes_valueOf place).bind fun value bound _ hvalue => ?_
  refine (Makes.of_keeps fun _ => keeps_node place).bind fun node bound' hbound _ => ?_
  refine makes_get_bind fun s _ hsize => ?_
  dsimp only
  split
  · exact makes_fail
  · exact makes_pure fun last hlast => hvalue.mono (by omega)

/-- Merging leaves the values and the heap as they are. -/
theorem makes_mergeAll (place : Nat) : Makes size (fun _ _ => True) (mergeAll place) :=
  .of_keeps fun _ => keeps_mergeAll (fun _ _ h => ⟨h.1.withGraph, h.2⟩) place

theorem makes_pairs (place : Nat) : Makes size (fun _ _ => True) (pairs place) :=
  .of_keeps fun _ => keeps_pairs place

theorem makes_entries (place : Nat) :
    Makes size (fun bound entries => ∀ e ∈ entries, Member bound e.1 ∧ Member bound e.2)
      (entries place) := by
  refine (makes_pairs place).bind fun _ _ _ _ => (makes_mergeAll place).bind fun _ _ _ _ => ?_
  refine (makes_pairs place).bind fun pairs bound _ _ => ?_
  refine Makes.bind (.foldlM (fun low high stored hle (h : Stored low stored) => h.mono hle)
    (fun pair _ stored low _ hstored => ?_) nofun) fun stored bound' _ hstored =>
      makes_pure fun last hlast e he => ?_
  · refine (makes_keyOf pair.1).bind fun key low' hlow hkey => ?_
    refine (makes_valueOf pair.2).bind fun value low'' hlow' hvalue => makes_pure fun last hlast => ?_
    have hle := Nat.le_trans hlow' hlast
    exact (hstored.mono (Nat.le_trans hlow hle)).storeEntry (hkey.mono hle) (hvalue.mono hlast)
  · obtain ⟨e', he', rfl⟩ := List.mem_map.1 he
    exact hstored.mono hlast e' he'

theorem makes_pairOf (place : Nat) : Makes size Member (pairOf place) := by
  refine (makes_pairs place).bind fun pairs bound _ _ => ?_
  split
  · refine (makes_valueOf _).bind fun key bound' _ hkey => ?_
    refine (makes_valueOf _).bind fun value bound'' hbound hvalue => ?_
    have hboth : ∀ inner ∈ held (.tuple [key, value]), Member bound'' inner := by
      simp [held, hkey.mono hbound, hvalue]
    have hpair : Entry bound'' (.tuple [key, value]) := entry_of_held trivial rfl rfl hboth
    refine (makes_allocate hpair).bind fun entry last _ hentry => makes_pure fun _ hlast => ?_
    exact member_link (Nat.lt_of_lt_of_le hentry hlast)
  · exact makes_fail

theorem makes_fillTask (task : Task) : Makes size (fun _ _ => True) (fillTask task) := by
  have hitems {make : Nat → Make Value} (hmake : ∀ bound place, Makes bound Member (make place)) :
      Makes size (fun _ _ => True) (do
        fill task.entry (.list (← (← items task.place).mapM make))) := by
    refine (Makes.of_keeps fun _ => keeps_items _).bind fun places bound _ _ => ?_
    refine (Makes.mapM (fun _ _ value hle h => h.mono hle) fun place _ => hmake bound place).bind
      fun values bound' _ hvalues => ?_
    exact makes_fill (entry_of_held trivial rfl rfl hvalues)
  unfold fillTask
  split
  · exact hitems fun _ => makes_valueOf
  · refine (makes_entries _).bind fun entries bound _ hentries => makes_fill ?_
    refine entry_of_held trivial rfl rfl fun inner hinner => ?_
    obtain ⟨e, he, rfl⟩ := List.mem_map.1 hinner
    exact (hentries e he).2
  · refine (makes_entries _).bind fun entries bound _ hentries => makes_fill ?_
    refine entry_of_held trivial rfl rfl fun inner hinner => ?_
    obtain ⟨e, he, rfl⟩ := List.mem_map.1 hinner
    exact (hentries e he).1
  · exact hitems fun _ => makes_pairOf

theorem makes_runAll (fuel : Nat) : Makes size (fun _ _ => True) (runAll fuel) := by
  induction fuel generalizing size with
  | zero => exact makes_fail
  | succ fuel ih =>
      refine makes_get_bind fun s _ _ => ?_
      split
      · exact makes_pure fun _ _ => trivial
      · refine Makes.bind (makes_modify fun s hs _ => ⟨⟨hs.made, hs.heap⟩, Nat.le_refl _⟩)
          fun _ _ _ _ => ?_
        exact Makes.bind (.forM fun task _ => makes_fillTask task) fun _ _ _ _ => ih

end Make

/-! ## Documents -/

theorem Graph.wellLinked_value (graph : Graph) (root : Nat) :
    Ends (fun _ => True) WellLinked (graph.value root) := by
  have hmake : Makes 0 Member (do
      let value ← Make.valueOf root
      Make.runAll (graph.size + 2)
      return value) :=
    (Make.makes_valueOf root).bind fun value bound _ hvalue =>
      (Make.makes_runAll _).bind fun _ bound' hbound _ =>
        makes_pure fun last hlast => hvalue.mono (Nat.le_trans hbound hlast)
  have hstart : Making.Sound ⟨graph, Array.replicate graph.size none, #[], []⟩ := by
    refine ⟨fun place value hvalue => ?_, by simp⟩
    rw [Array.getElem?_replicate] at hvalue
    split at hvalue <;> cases hvalue
  exact (hmake _ hstart (Nat.zero_le _)).bind fun r hr =>
    .pure (wellLinked_unlink hr.1.heap hr.2.2)

/-- What is recursive in a document that was read has no end. -/
theorem wellLinked_of_read {source : String} {text : List Char} {document : Value}
    (h : read source text = .ok document) : WellLinked document := by
  have hends : Ends (fun _ => True) WellLinked (readDocument text) := by
    refine .ite (.error trivial) ?_
    refine Ends.bind (.always (fun _ => trivial) fun _ => trivial) fun found _ => ?_
    split
    · exact .pure (.intro trivial (by simp [Value.components]))
    · exact Graph.wellLinked_value _ _
  rw [read, value] at h
  cases hdocument : readDocument text with
  | ok made =>
      rw [hdocument] at h hends
      cases h
      exact hends.of_ok
  | error stop =>
      rw [hdocument] at h
      cases h

end Conformance.Yaml
