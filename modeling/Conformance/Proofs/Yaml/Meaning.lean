import Conformance.Proofs.Yaml.Stop
import Conformance.Yaml.Meaning

/-! # What stops the making of values

Collections of the wrong form are malformed text. Only the text of a scalar can be refused
otherwise, by the reader of its tag, a mapping that is tagged as a timestamp, and one that is its own
default value.
-/

namespace Conformance.Yaml

namespace Make

variable {invariant : Making → Prop}

theorem keeps_fail : Keeps invariant (fail : Make α) := fun _ _ => yields_malformed

theorem keeps_node (place : Nat) : Keeps invariant (node place) :=
  keeps_get_bind fun _ _ => keeps_pure _

theorem keeps_allocate (value : Value) : Keeps (fun _ => True) (allocate value) :=
  keeps_get_bind fun _ _ => Keeps.bind (keeps_set trivial) fun _ => keeps_pure _

theorem keeps_fill (entry : Nat) (value : Value) : Keeps (fun _ => True) (fill entry value) :=
  keeps_modify fun _ _ => trivial

theorem keeps_textOf (fuel place : Nat) : Keeps invariant (textOf fuel place) := by
  induction fuel generalizing place with
  | zero => exact fun _ _ => .error Escape.endless
  | succ fuel ih =>
      refine (keeps_node place).bind fun node => ?_
      split
      · exact keeps_pure _
      · exact keeps_fail
      · refine keeps_get_bind fun s _ => ?_
        dsimp only
        split
        · exact ih _
        · exact keeps_fail

theorem clean_read {tag : String} {read : String → Reading Value}
    (hread : scalarReader? tag = some read) (text : String) : Clean (read text) := by
  cases hresult : read text with
  | ok value => exact .ok trivial
  | error stop =>
      cases stop with
      | malformed => exact yields_malformed
      | fault fault => exact .error (Escape.scalar hread hresult)

theorem keeps_scalarValue (place : Nat) (node : Node) :
    Keeps (fun _ => True) (scalarValue place node) := by
  unfold scalarValue
  split
  · exact keeps_fail
  · rename_i read hread
    refine keeps_get_bind fun s _ => (keeps_textOf _ _).bind fun text => ?_
    split
    · exact .of_clean (clean_read hread text)
    · exact .ite (.of_clean (.error .timestampMapping)) (.of_clean (clean_read hread text))

theorem keeps_valueOf (place : Nat) : Keeps (fun _ => True) (valueOf place) := by
  -- Both branches end by noting the value under its place.
  have hnote (value : Value) : Keeps (fun _ => True) (do
      modify fun s : Making => { s with made := s.made.setIfInBounds place (some value) }
      return value : Make Value) :=
    Keeps.bind (keeps_modify fun _ _ => trivial) fun _ => keeps_pure value
  refine keeps_get_bind fun s _ => ?_
  split
  · exact keeps_pure _
  · refine (keeps_node place).bind fun node => ?_
    split
    · refine (keeps_allocate _).bind fun entry => ?_
      exact Keeps.bind (keeps_modify fun _ _ => trivial) fun _ => hnote _
    · exact (keeps_scalarValue place node).bind fun value => hnote value

/-! ## Collections -/

theorem keeps_items (place : Nat) : Keeps invariant (items place) := by
  refine (keeps_node place).bind fun node => ?_
  split
  · exact keeps_pure _
  · exact keeps_fail

theorem keeps_pairs (place : Nat) : Keeps invariant (pairs place) := by
  refine (keeps_node place).bind fun node => ?_
  split
  · exact keeps_pure _
  · exact keeps_fail

section Merging

variable (hgraph : ∀ s graph, invariant s → invariant { s with graph })

include hgraph

theorem keeps_setPairs (place : Nat) (pairs : List (Nat × Nat)) :
    Keeps invariant (setPairs place pairs) := keeps_modify fun s hs => hgraph s _ hs

theorem keeps_setTag (place : Nat) (tag : String) : Keeps invariant (setTag place tag) :=
  keeps_modify fun s hs => hgraph s _ hs

omit hgraph in
theorem keeps_mergedPairs {merge : Nat → Make Unit}
    (hmerge : ∀ place, Keeps invariant (merge place)) (place : Nat) :
    Keeps invariant (mergedPairs merge place) := by
  refine (keeps_node place).bind fun node => ?_
  split
  · exact (hmerge place).bind fun _ => keeps_pairs place
  · refine Keeps.bind (.mapM fun item _ => ?_) fun lists => keeps_pure _
    exact (keeps_pairs item).bind fun _ => (hmerge item).bind fun _ => keeps_pairs item
  · exact keeps_fail

theorem keeps_mergeInto {merge : Nat → Make Unit}
    (hmerge : ∀ place, Keeps invariant (merge place)) (place : Nat)
    (rest kept merged : List (Nat × Nat)) :
    Keeps invariant (mergeInto merge place rest kept merged) := by
  induction rest generalizing kept merged with
  | nil => exact keeps_setPairs hgraph _ _
  | cons pair rest ih =>
      obtain ⟨key, value⟩ := pair
      refine (keeps_node key).bind fun node => .ite ?_ (.ite ?_ (ih _ _))
      · refine (keeps_setPairs hgraph _ _).bind fun _ => ?_
        refine (keeps_mergedPairs hmerge value).bind fun more => ?_
        exact (keeps_pairs place).bind fun now => .ite (ih _ _) (keeps_setPairs hgraph _ _)
      · exact (keeps_setTag hgraph _ _).bind fun _ => ih _ _

theorem keeps_merge (fuel place : Nat) : Keeps invariant (merge fuel place) := by
  induction fuel generalizing place with
  | zero => exact keeps_fail
  | succ fuel ih => exact (keeps_pairs place).bind fun _ => keeps_mergeInto hgraph ih _ _ _ _

theorem keeps_mergeAll (place : Nat) : Keeps invariant (mergeAll place) :=
  keeps_get_bind fun _ _ => keeps_merge hgraph _ _

end Merging

theorem keeps_keyOf (place : Nat) : Keeps (fun _ => True) (keyOf place) := by
  refine (keeps_valueOf place).bind fun value => (keeps_node place).bind fun node => ?_
  refine keeps_get_bind fun s _ => ?_
  dsimp only
  split
  · exact keeps_fail
  · exact keeps_pure _

theorem keeps_entries (place : Nat) : Keeps (fun _ => True) (entries place) := by
  refine (keeps_pairs place).bind fun _ => ?_
  refine (keeps_mergeAll (fun _ _ h => h) place).bind fun _ => ?_
  refine (keeps_pairs place).bind fun pairs => ?_
  refine Keeps.bind (.foldlM (fun pair _ stored => ?_) []) fun stored => keeps_pure _
  exact (keeps_keyOf _).bind fun key => (keeps_valueOf _).bind fun value => keeps_pure _

theorem keeps_pairOf (place : Nat) : Keeps (fun _ => True) (pairOf place) := by
  refine (keeps_pairs place).bind fun pairs => ?_
  split
  · refine (keeps_valueOf _).bind fun key => (keeps_valueOf _).bind fun value => ?_
    exact (keeps_allocate _).bind fun entry => keeps_pure _
  · exact keeps_fail

theorem keeps_fillTask (task : Task) : Keeps (fun _ => True) (fillTask task) := by
  have hitems {make : Nat → Make Value} (hmake : ∀ place, Keeps (fun _ => True) (make place)) :
      Keeps (fun _ => True) (do
        fill task.entry (.list (← (← items task.place).mapM make))) :=
    (keeps_items _).bind fun _ => Keeps.bind (.mapM fun place _ => hmake place) fun _ =>
      keeps_fill _ _
  unfold fillTask
  split
  · exact hitems keeps_valueOf
  · exact (keeps_entries _).bind fun _ => keeps_fill _ _
  · exact (keeps_entries _).bind fun _ => keeps_fill _ _
  · exact hitems keeps_pairOf

theorem keeps_runAll (fuel : Nat) : Keeps (fun _ => True) (runAll fuel) := by
  induction fuel with
  | zero => exact keeps_fail
  | succ fuel ih =>
      refine keeps_get_bind fun s _ => ?_
      split
      · exact keeps_pure _
      · refine Keeps.bind (keeps_modify fun _ _ => trivial) fun _ => ?_
        exact Keeps.bind (.forM fun task _ => keeps_fillTask task) fun _ => ih

end Make

theorem Graph.clean_value (graph : Graph) (root : Nat) : Clean (graph.value root) := by
  have hmake : Keeps (fun _ => True) (do
      let value ← Make.valueOf root
      Make.runAll (graph.size + 2)
      return value) :=
    (Make.keeps_valueOf root).bind fun value =>
      (Make.keeps_runAll _).bind fun _ => keeps_pure value
  exact (hmake _ trivial).bind fun _ _ => .pure trivial

end Conformance.Yaml
