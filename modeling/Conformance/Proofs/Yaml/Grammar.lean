import Conformance.Proofs.Yaml.Lexer
import Conformance.Yaml.Grammar

/-! # What stops the grammar

Parsing takes tokens and adds none. So it stops at tokens that do not fit, which is malformed text,
or where the text could not be read further.
-/

namespace Conformance.Yaml

/-- All tokens that are left are calm. -/
def ParseState.Calm (s : ParseState) : Prop := ∀ token ∈ s.tokens, token.Calm

namespace Parse

open ParseState (Calm)

theorem keeps_fail : Keeps Calm (fail : Parse α) := fun _ _ => yields_malformed

theorem keeps_peek : Keeps Calm peek := by
  refine keeps_get_bind fun s hs => ?_
  split
  · exact keeps_fail
  · rename_i stop rest htokens
    intro _ _
    exact .error (hs (.stopped stop) (by simp [htokens]))
  · exact keeps_pure _

theorem keeps_skip : Keeps Calm skip :=
  keeps_modify fun _ hs token htoken => hs token (List.mem_of_mem_drop htoken)

theorem keeps_expect (token : Token) : Keeps Calm (expect token) :=
  keeps_peek.bind fun _ => .ite keeps_skip keeps_fail

theorem keeps_accept (token : Token) : Keeps Calm (accept token) :=
  keeps_peek.bind fun _ => .ite (keeps_skip.bind fun _ => keeps_pure true) (keeps_pure false)

theorem keeps_reserve (anchor : Option String) : Keeps Calm (reserve anchor) := by
  refine keeps_get_bind fun s hs => ?_
  refine Keeps.bind (keeps_set hs) fun _ => ?_
  split
  · exact keeps_pure _
  · refine .ite keeps_fail ?_
    exact Keeps.bind (keeps_modify fun _ h => h) fun _ => keeps_pure _

theorem keeps_fill (place : Nat) (node : Node) : Keeps Calm (fill place node) :=
  keeps_modify fun _ h => h

theorem keeps_addScalar (anchor : Option String) (tag text : String) :
    Keeps Calm (addScalar anchor tag text) :=
  (keeps_reserve anchor).bind fun place => (keeps_fill place _).bind fun _ => keeps_pure place

theorem keeps_empty : Keeps Calm empty := keeps_addScalar _ _ _

theorem keeps_expandTag (handle : Option String) (suffix : String) :
    Keeps Calm (expandTag handle suffix) := by
  unfold expandTag
  split
  · exact keeps_pure _
  · refine keeps_get_bind fun s hs => ?_
    split
    · exact keeps_pure _
    · exact keeps_fail

theorem keeps_properties : Keeps Calm properties := by
  refine keeps_peek.bind fun token => ?_
  split
  · refine keeps_skip.bind fun _ => keeps_peek.bind fun token => ?_
    split
    · exact keeps_skip.bind fun _ => (keeps_expandTag _ _).bind fun _ => keeps_pure _
    · exact keeps_pure _
  · refine keeps_skip.bind fun _ => keeps_peek.bind fun token => ?_
    split
    · exact keeps_skip.bind fun _ => (keeps_expandTag _ _).bind fun _ => keeps_pure _
    · exact (keeps_expandTag _ _).bind fun _ => keeps_pure _
  · exact keeps_pure _

/-- All constructs keep the tokens calm with some fuel. They call each other with less of it, so
they are proved together. -/
structure KeepsCalm (fuel : Nat) : Prop where
  node (position : Position) : Keeps Calm (node position fuel)
  content (position : Position) (properties : Properties) :
    Keeps Calm (content position properties fuel)
  optional (position : Position) (stops : List Token) :
    Keeps Calm (optional position stops fuel)
  blockItems : Keeps Calm (blockItems fuel)
  indentlessItems : Keeps Calm (indentlessItems fuel)
  blockPairs : Keeps Calm (blockPairs fuel)
  flowItems (first : Bool) : Keeps Calm (flowItems first fuel)
  flowPair (stops : List Token) : Keeps Calm (flowPair stops fuel)
  flowPairs (first : Bool) : Keeps Calm (flowPairs first fuel)

theorem keepsCalm_zero : KeepsCalm 0 where
  node _ := keeps_fail
  content _ _ := keeps_fail
  optional _ _ := keeps_fail
  blockItems := keeps_fail
  indentlessItems := keeps_fail
  blockPairs := keeps_fail
  flowItems _ := keeps_fail
  flowPair _ := keeps_fail
  flowPairs _ := keeps_fail

namespace KeepsCalm

variable {fuel : Nat}

theorem node_succ (h : KeepsCalm fuel) (position : Position) :
    Keeps Calm (Parse.node position (fuel + 1)) := by
  unfold Parse.node
  refine keeps_peek.bind fun token => ?_
  split
  · refine keeps_skip.bind fun _ => keeps_get_bind fun s hs => ?_
    split
    · exact keeps_pure _
    · exact keeps_fail
  · exact keeps_properties.bind fun properties => h.content position properties

theorem content_succ (h : KeepsCalm fuel) (position : Position) (properties : Properties) :
    Keeps Calm (Parse.content position properties (fuel + 1)) := by
  unfold Parse.content
  have hcollect (tag : String) {body : Parse Content} (hbody : Keeps Calm body) :
      Keeps Calm (do
        let place ← reserve properties.anchor
        fill place ⟨properties.tagOr (coreTag tag), ← body⟩
        return place) :=
    (keeps_reserve _).bind fun place =>
      hbody.bind fun content => (keeps_fill place _).bind fun _ => keeps_pure place
  refine keeps_peek.bind fun token => ?_
  refine .ite (hcollect "seq" (h.indentlessItems.bind fun _ => keeps_pure _)) ?_
  split
  · exact keeps_skip.bind fun _ => keeps_addScalar _ _ _
  · exact keeps_skip.bind fun _ =>
      hcollect "seq" ((h.flowItems true).bind fun _ => keeps_pure _)
  · exact keeps_skip.bind fun _ =>
      hcollect "map" ((h.flowPairs true).bind fun _ => keeps_pure _)
  · refine .ite ?_ (.ite ?_ (.ite (keeps_addScalar _ _ _) keeps_fail))
    · exact keeps_skip.bind fun _ => hcollect "seq" (h.blockItems.bind fun _ => keeps_pure _)
    · exact keeps_skip.bind fun _ => hcollect "map" (h.blockPairs.bind fun _ => keeps_pure _)

theorem optional_succ (h : KeepsCalm fuel) (position : Position) (stops : List Token) :
    Keeps Calm (Parse.optional position stops (fuel + 1)) := by
  unfold Parse.optional
  exact keeps_peek.bind fun _ => .ite keeps_empty (h.node position)

theorem blockItems_succ (h : KeepsCalm fuel) : Keeps Calm (Parse.blockItems (fuel + 1)) := by
  unfold Parse.blockItems
  refine (keeps_accept _).bind fun _ => .ite ?_ ?_
  · exact (h.optional _ _).bind fun _ => h.blockItems.bind fun _ => keeps_pure _
  · exact (keeps_expect _).bind fun _ => keeps_pure _

theorem indentlessItems_succ (h : KeepsCalm fuel) :
    Keeps Calm (Parse.indentlessItems (fuel + 1)) := by
  unfold Parse.indentlessItems
  refine (keeps_accept _).bind fun _ => .ite ?_ (keeps_pure _)
  exact (h.optional _ _).bind fun _ => h.indentlessItems.bind fun _ => keeps_pure _

theorem blockPairs_succ (h : KeepsCalm fuel) : Keeps Calm (Parse.blockPairs (fuel + 1)) := by
  unfold Parse.blockPairs
  refine (keeps_accept _).bind fun _ => .ite ?_ ?_
  · refine (h.optional _ _).bind fun key => (keeps_accept _).bind fun _ => .ite ?_ ?_
    · exact (h.optional _ _).bind fun _ => h.blockPairs.bind fun _ => keeps_pure _
    · exact keeps_empty.bind fun _ => h.blockPairs.bind fun _ => keeps_pure _
  · exact (keeps_expect _).bind fun _ => keeps_pure _

theorem flowPair_succ (h : KeepsCalm fuel) (stops : List Token) :
    Keeps Calm (Parse.flowPair stops (fuel + 1)) := by
  unfold Parse.flowPair
  refine (keeps_expect _).bind fun _ => (h.optional _ _).bind fun key => ?_
  refine (keeps_accept _).bind fun _ => .ite ?_ ?_
  · exact (h.optional _ _).bind fun _ => keeps_pure _
  · exact keeps_empty.bind fun _ => keeps_pure _

theorem flowItems_succ (h : KeepsCalm fuel) (first : Bool) :
    Keeps Calm (Parse.flowItems first (fuel + 1)) := by
  unfold Parse.flowItems
  refine (keeps_accept _).bind fun _ => .ite (keeps_pure _) ?_
  -- The items go on in the same way with a mark before them and without one.
  refine .ite ((keeps_expect _).bind fun _ => ?_) ?_
  all_goals
    refine keeps_peek.bind fun token => ?_
    split
    · exact keeps_skip.bind fun _ => keeps_pure _
    · refine (keeps_reserve _).bind fun place => (h.flowPair _).bind fun pair => ?_
      exact (keeps_fill _ _).bind fun _ => (h.flowItems false).bind fun _ => keeps_pure _
    · exact (h.node _).bind fun _ => (h.flowItems false).bind fun _ => keeps_pure _

theorem flowPairs_succ (h : KeepsCalm fuel) (first : Bool) :
    Keeps Calm (Parse.flowPairs first (fuel + 1)) := by
  unfold Parse.flowPairs
  refine (keeps_accept _).bind fun _ => .ite (keeps_pure _) ?_
  refine .ite ((keeps_expect _).bind fun _ => ?_) ?_
  all_goals
    refine keeps_peek.bind fun token => ?_
    split
    · exact keeps_skip.bind fun _ => keeps_pure _
    · exact (h.flowPair _).bind fun _ => (h.flowPairs false).bind fun _ => keeps_pure _
    · refine (h.node _).bind fun _ => keeps_empty.bind fun _ => ?_
      exact (h.flowPairs false).bind fun _ => keeps_pure _

theorem succ (h : KeepsCalm fuel) : KeepsCalm (fuel + 1) where
  node := h.node_succ
  content := h.content_succ
  optional := h.optional_succ
  blockItems := h.blockItems_succ
  indentlessItems := h.indentlessItems_succ
  blockPairs := h.blockPairs_succ
  flowItems := h.flowItems_succ
  flowPair := h.flowPair_succ
  flowPairs := h.flowPairs_succ

end KeepsCalm

theorem keepsCalm (fuel : Nat) : KeepsCalm fuel := by
  induction fuel with
  | zero => exact keepsCalm_zero
  | succ fuel ih => exact ih.succ

/-! ## Documents -/

theorem keeps_directives (fuel : Nat) (versioned : Bool) (handles : List (String × String)) :
    Keeps Calm (directives fuel versioned handles) := by
  induction fuel generalizing versioned handles with
  | zero => exact keeps_fail
  | succ fuel ih =>
      refine keeps_peek.bind fun token => ?_
      split
      · refine keeps_skip.bind fun _ => ?_
        split
        · exact .ite keeps_fail (ih _ _)
        · exact .ite keeps_fail (ih _ _)
        · exact ih _ _
      · exact keeps_pure _

theorem keeps_skipDocumentEnds (fuel : Nat) : Keeps Calm (skipDocumentEnds fuel) := by
  induction fuel with
  | zero => exact keeps_fail
  | succ fuel ih => exact (keeps_accept _).bind fun _ => .ite ih (keeps_pure _)

theorem keeps_documentContent (fuel : Nat) : Keeps Calm (documentContent fuel) := by
  refine keeps_peek.bind fun token => ?_
  have hnode := (keepsCalm fuel).node .block
  split <;> first | exact keeps_empty | exact hnode

theorem keeps_document (fuel : Nat) : Keeps Calm (document fuel) := by
  have hmarked : Keeps Calm (do
      let handles ← directives fuel false []
      modify fun s => { s with handles := handles ++ standardHandles }
      expect .documentStart
      return some (← documentContent fuel)) := by
    refine (keeps_directives _ _ _).bind fun handles => ?_
    refine Keeps.bind (keeps_modify fun _ h => h) fun _ => ?_
    exact (keeps_expect _).bind fun _ => (keeps_documentContent _).bind fun _ => keeps_pure _
  refine keeps_peek.bind fun token => ?_
  split
  · exact keeps_pure _
  · exact hmarked
  · exact hmarked
  · exact ((keepsCalm fuel).node .block).bind fun _ => keeps_pure _

theorem keeps_stream (fuel : Nat) : Keeps Calm (stream fuel) := by
  refine (keeps_document fuel).bind fun root? => ?_
  split
  · exact keeps_pure _
  · exact (keeps_skipDocumentEnds fuel).bind fun _ => (keeps_expect _).bind fun _ => keeps_pure _

end Parse

theorem Graph.clean_ofTokens {tokens : List Token} (h : ∀ token ∈ tokens, token.Calm) :
    Clean (Graph.ofTokens tokens) :=
  (Parse.keeps_stream _ ⟨tokens, #[], [], Parse.standardHandles⟩ h).bind fun _ _ =>
    .pure trivial

end Conformance.Yaml
