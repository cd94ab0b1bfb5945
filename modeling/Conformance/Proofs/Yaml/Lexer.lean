import Conformance.Proofs.Yaml.Token
import Conformance.Yaml.Lexer

/-! # What the tokens of a text stop with

All tokens that a step of the lexer adds are calm, and it stops harmlessly. So the stop that a run
leaves behind its tokens is harmless too.
-/

namespace Conformance.Yaml

namespace Lexer

def Calm (lexer : Lexer) : Prop := ∀ token ∈ lexer.tokens, token.Calm

variable {lexer : Lexer} {token : Token}

theorem calm_start (text : List Char) : (start text).Calm := by
  intro token htoken
  cases htoken

namespace Calm

theorem emit (h : lexer.Calm) (htoken : token.Calm) : (lexer.emit token).Calm :=
  List.forall_mem_cons.2 ⟨htoken, h⟩

theorem take (h : lexer.Calm) (width : Nat) (htoken : token.Calm) :
    (lexer.take width token).Calm := h.emit htoken

theorem insert (h : lexer.Calm) (number : Nat) (htoken : token.Calm) :
    (lexer.insert number token).Calm := by
  intro other hother
  rcases List.mem_append.1 hother with hbehind | hahead
  · exact h other (List.mem_of_mem_take hbehind)
  · rcases List.mem_cons.1 hahead with rfl | hahead
    · exact htoken
    · exact h other (List.mem_of_mem_drop hahead)

theorem closeBlocks (column : Int) (outer : List Int) (h : lexer.Calm) :
    (closeBlocks column outer lexer).Calm := by
  induction outer generalizing lexer with
  | nil => exact h
  | cons next rest ih =>
      unfold Lexer.closeBlocks
      split
      · exact ih (h.emit trivial)
      · exact h

theorem unindent (h : lexer.Calm) (column : Int) : (lexer.unindent column).Calm := by
  unfold Lexer.unindent
  split
  · exact h
  · exact h.closeBlocks column lexer.outer

theorem opensBlock {opened : Lexer} {column : Int} (h : lexer.Calm)
    (hopens : lexer.opensBlock column = some opened) : opened.Calm := by
  unfold Lexer.opensBlock at hopens
  split at hopens
  · cases hopens
    exact h
  · cases hopens

theorem openBlock (h : lexer.Calm) (htoken : token.Calm) : (lexer.openBlock token).Calm := by
  unfold Lexer.openBlock
  split
  · rename_i opened hopens
    exact (h.opensBlock hopens).emit htoken
  · exact h

/-- A mark outside brackets opens a block. -/
theorem openBlockUnlessFlow (h : lexer.Calm) (token : Token) (htoken : token.Calm) :
    (if lexer.inFlow then lexer else lexer.openBlock token).Calm := by
  split
  · exact h
  · exact h.openBlock htoken

theorem skipToToken (fuel : Nat) (h : lexer.Calm) : (skipToToken fuel lexer).Calm := by
  induction fuel generalizing lexer with
  | zero => exact h
  | succ fuel ih =>
      unfold Lexer.skipToToken
      dsimp only
      split
      · exact ih h
      · exact h

theorem skipMark (h : lexer.Calm) : lexer.skipMark.Calm := by
  unfold Lexer.skipMark
  split <;> exact h

theorem markKey (h : lexer.Calm) (key : KeyStart) : (lexer.markKey key).Calm := by
  have hforgot : lexer.forgetKey.Calm := h
  have hmarked := hforgot.insert key.number (show Token.key.Calm from trivial)
  unfold Lexer.markKey
  dsimp only
  split
  · exact hmarked
  · split
    · rename_i opened hopens
      exact (hmarked.opensBlock hopens).insert key.number trivial
    · exact hmarked

end Calm

/-! ## Steps -/

theorem yields_dropStale (h : lexer.Calm) : Yields Calm lexer.dropStale :=
  .ite yields_malformed (.ok h)

theorem yields_dropKey (h : lexer.Calm) : Yields Calm lexer.dropKey := by
  unfold dropKey
  split
  · exact .ite yields_malformed (.ok h)
  · exact .ok h

theorem yields_noteKey (h : lexer.Calm) : Yields Calm lexer.noteKey :=
  .ite ((yields_dropKey h).bind fun _ hdropped => .pure hdropped) (.ok h)

theorem yields_closeAll (h : lexer.Calm) : Yields Calm lexer.closeAll :=
  (yields_dropKey (h.unindent (-1))).bind fun _ hclosed => .pure hclosed

theorem yields_lexEnd (h : lexer.Calm) : Yields Calm lexer.lexEnd :=
  (yields_closeAll h).bind fun _ hclosed => .pure (hclosed.emit trivial)

theorem yields_lexDirective (h : lexer.Calm) : Yields Calm lexer.lexDirective :=
  (yields_closeAll h).bind fun _ hclosed =>
    (Token.yields_calm_readDirective _).bind fun _ htoken => .pure (hclosed.emit htoken)

theorem yields_lexSeparator (h : lexer.Calm) (htoken : token.Calm) :
    Yields Calm (lexer.lexSeparator token) :=
  (yields_closeAll h).bind fun _ hclosed => .pure (hclosed.take 3 htoken)

theorem yields_lexFlowStart (h : lexer.Calm) (htoken : token.Calm) :
    Yields Calm (lexer.lexFlowStart token) :=
  (yields_noteKey h).bind fun _ hnoted => .pure (hnoted.take 1 htoken)

theorem yields_lexFlowEnd (h : lexer.Calm) (htoken : token.Calm) :
    Yields Calm (lexer.lexFlowEnd token) :=
  (yields_dropKey h).bind fun _ hdropped => .pure (hdropped.take 1 htoken)

theorem yields_lexFlowEntry (h : lexer.Calm) : Yields Calm lexer.lexFlowEntry :=
  (yields_dropKey h).bind fun _ hdropped => .pure (hdropped.take 1 trivial)

theorem yields_lexBlockEntry (h : lexer.Calm) : Yields Calm lexer.lexBlockEntry := by
  refine .ite yields_malformed ?_
  exact (yields_dropKey (h.openBlockUnlessFlow .blockSequenceStart trivial)).bind fun _ hdropped =>
    .pure (hdropped.take 1 trivial)

theorem yields_lexKey (h : lexer.Calm) : Yields Calm lexer.lexKey := by
  refine .ite yields_malformed ?_
  exact (yields_dropKey (h.openBlockUnlessFlow .blockMappingStart trivial)).bind fun _ hdropped =>
    .pure (hdropped.take 1 trivial)

theorem yields_lexValue (h : lexer.Calm) : Yields Calm lexer.lexValue := by
  unfold lexValue
  split
  · exact .pure ((h.markKey _).take 1 trivial)
  · refine .ite yields_malformed ?_
    exact (yields_dropKey (h.openBlockUnlessFlow .blockMappingStart trivial)).bind fun _ hdropped =>
      .pure (hdropped.take 1 trivial)

theorem yields_lexKeyed (h : lexer.Calm) {read : Cursor → Reading (Token × Cursor)}
    (hread : ∀ cursor, Yields (fun r => r.1.Calm) (read cursor)) :
    Yields Calm (lexer.lexKeyed read) :=
  (yields_noteKey h).bind fun _ hnoted =>
    (hread _).bind fun _ htoken => .pure (hnoted.emit htoken)

theorem yields_lexQuoted (h : lexer.Calm) (quote : Quote) : Yields Calm (lexer.lexQuoted quote) :=
  yields_lexKeyed h fun cursor =>
    ((clean_quotedScalar quote cursor).imp (fun _ h => h) fun _ _ => trivial).map

theorem yields_lexBlock (h : lexer.Calm) (style : BlockStyle) :
    Yields Calm (lexer.lexBlock style) :=
  (yields_dropKey h).bind fun _ hdropped =>
    (clean_blockScalar _ _ _).bind fun _ _ => .pure (hdropped.emit trivial)

theorem yields_lexPlain (h : lexer.Calm) : Yields Calm lexer.lexPlain :=
  (yields_noteKey h).bind fun _ hnoted => .pure (hnoted.emit trivial)

/-- One case for each construct that a token starts. -/
theorem yields_lexToken (h : lexer.Calm) : Yields Calm lexer.lexToken := by
  have hanchor (construct : String → Token) (hcalm : ∀ name, (construct name).Calm)
      (cursor : Cursor) : Yields (fun read => read.1.Calm)
        ((Token.readAnchor cursor.advance).map fun read => (construct read.1, read.2)) := by
    refine .map ?_
    exact (Token.clean_readAnchor _).imp (fun _ h => h) fun read _ => hcalm read.1
  unfold lexToken
  dsimp only
  split
  · exact yields_lexEnd h
  · refine .ite (yields_lexDirective h) ?_
    refine .ite (yields_lexSeparator h trivial) ?_
    refine .ite (yields_lexSeparator h trivial) ?_
    refine .ite (yields_lexFlowStart h trivial) ?_
    refine .ite (yields_lexFlowStart h trivial) ?_
    refine .ite (yields_lexFlowEnd h trivial) ?_
    refine .ite (yields_lexFlowEnd h trivial) ?_
    refine .ite (yields_lexFlowEntry h) ?_
    refine .ite (yields_lexBlockEntry h) ?_
    refine .ite (yields_lexKey h) ?_
    refine .ite (yields_lexValue h) ?_
    refine .ite (yields_lexKeyed h (hanchor .alias fun _ => trivial)) ?_
    refine .ite (yields_lexKeyed h (hanchor .anchor fun _ => trivial)) ?_
    refine .ite (yields_lexKeyed h Token.yields_calm_readTag) ?_
    refine .ite (yields_lexBlock h .literal) ?_
    refine .ite (yields_lexBlock h .folded) ?_
    refine .ite (yields_lexQuoted h .single) ?_
    refine .ite (yields_lexQuoted h .double) ?_
    exact .ite (yields_lexPlain h) yields_malformed

theorem yields_step (h : lexer.Calm) : Yields Calm lexer.step :=
  (yields_dropStale (h.skipMark.skipToToken _)).bind fun _ hfresh =>
    yields_lexToken (hfresh.unindent _)

theorem calm_of_mem_run (fuel : Nat) (h : lexer.Calm) : ∀ token ∈ run fuel lexer, token.Calm := by
  induction fuel generalizing lexer with
  | zero => exact fun token htoken => h token (List.mem_reverse.1 htoken)
  | succ fuel ih =>
      have hread (token : Token) (htoken : token ∈ lexer.tokens.reverse) : token.Calm :=
        h token (List.mem_reverse.1 htoken)
      unfold run
      split
      · exact hread
      · split
        · rename_i next hstep
          exact ih (hstep ▸ yields_step h).of_ok
        · rename_i stop hstep
          intro token htoken
          rcases List.mem_append.1 htoken with hfirm | hstopped
          · exact hread token (List.mem_of_mem_take hfirm)
          · rw [List.mem_singleton.1 hstopped]
            exact (hstep ▸ yields_step h).of_error

end Lexer

theorem Token.calm_of_mem_ofText {text : List Char} {token : Token}
    (h : token ∈ Token.ofText text) : token.Calm :=
  Lexer.calm_of_mem_run _ (Lexer.calm_start text) token h

end Conformance.Yaml
