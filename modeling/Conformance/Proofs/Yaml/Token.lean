import Conformance.Proofs.Yaml.Stop
import Conformance.Yaml.Scalar.Block
import Conformance.Yaml.Scalar.Quoted
import Conformance.Yaml.Token

/-! # What stops the reading of tokens

Names, tags and block scalars stop at malformed text only. Beside it, the numbers of a version and
the codes of escapes are refused.
-/

namespace Conformance.Yaml

theorem clean_finishLine (cursor : Cursor) : Clean cursor.finishLine := by
  unfold Cursor.finishLine
  extract_lets spaces comment
  cases comment.takeBreak? with
  | some taken => exact .ok trivial
  | none => exact .ite (.ok trivial) yields_malformed

theorem clean_charOfCode (code : Nat) : Clean (charOfCode code) := by
  cases hread : charOfCode code with
  | ok c => exact .ok trivial
  | error stop =>
      cases stop with
      | malformed => exact yields_malformed
      | fault fault => exact .error (Escape.code hread)

theorem clean_quotedBreaks (fuel : Nat) (cursor : Cursor) (breaks : List Char) :
    Clean (quotedBreaks fuel cursor breaks) := by
  induction fuel generalizing cursor breaks with
  | zero => exact yields_malformed
  | succ fuel ih =>
      unfold quotedBreaks
      refine .ite yields_malformed ?_
      dsimp only
      split
      · exact ih _ _
      · exact .ok trivial

theorem clean_quotedEscape (cursor : Cursor) (text : List Char) :
    Clean (quotedEscape cursor text) := by
  unfold quotedEscape
  split
  · exact yields_malformed
  · split
    · exact .ok trivial
    · refine .ite yields_malformed ?_
      split
      · exact yields_malformed
      · exact (clean_charOfCode _).bind fun c _ => .pure trivial
    · split
      · exact (clean_quotedBreaks _ _ _).bind fun read _ => .pure trivial
      · exact yields_malformed

theorem clean_quotedContent (quote : Quote) (fuel : Nat) (cursor : Cursor) (text : List Char) :
    Clean (quotedContent quote fuel cursor text) := by
  induction fuel generalizing cursor text with
  | zero => exact .ok trivial
  | succ fuel ih =>
      unfold quotedContent
      split
      · exact .ok trivial
      · exact .ite (ih _ _) (.ok trivial)
      · exact .ok trivial
      · exact (clean_quotedEscape _ _).bind fun read _ => ih _ _
      · exact .ite (.ok trivial) (ih _ _)

theorem clean_quotedSpaces (cursor : Cursor) (text : List Char) :
    Clean (quotedSpaces cursor text) := by
  unfold quotedSpaces
  dsimp only
  split
  · refine (clean_quotedBreaks _ _ _).bind fun ⟨breaks, cursor⟩ _ => ?_
    exact .ite (.pure trivial) (.ite (.pure trivial) (.pure trivial))
  · exact .ite yields_malformed (.ok trivial)

theorem clean_quotedStretches (quote : Quote) (fuel : Nat) (cursor : Cursor) (text : List Char) :
    Clean (quotedStretches quote fuel cursor text) := by
  induction fuel generalizing cursor text with
  | zero => exact yields_malformed
  | succ fuel ih =>
      refine (clean_quotedContent _ _ _ _).bind fun ⟨text, cursor⟩ _ => ?_
      refine .ite (.pure trivial) ?_
      exact (clean_quotedSpaces _ _).bind fun ⟨text, cursor⟩ _ => ih _ _

theorem clean_quotedScalar (quote : Quote) (cursor : Cursor) :
    Clean (quotedScalar quote cursor) :=
  (clean_quotedStretches _ _ _ _).bind fun _ _ => .pure trivial

theorem clean_blockHeader (cursor : Cursor) : Clean (blockHeader cursor) :=
  .ite yields_malformed (.pure trivial)

theorem clean_blockScalar (style : BlockStyle) (indent : Int) (cursor : Cursor) :
    Clean (blockScalar style indent cursor) :=
  (clean_blockHeader _).bind fun _ _ =>
    (clean_finishLine _).bind fun _ _ => .pure trivial

/-! ## Names, tags and directives -/

namespace Token

theorem clean_readName (cursor : Cursor) : Clean (readName cursor) :=
  .ite yields_malformed (.ok trivial)

theorem clean_readAnchor (cursor : Cursor) : Clean (readAnchor cursor) :=
  (clean_readName _).bind fun ⟨_, _⟩ _ => .ite (.pure trivial) yields_malformed

theorem clean_readPercents (fuel : Nat) (cursor : Cursor) (bytes : List UInt8) :
    Clean (readPercents fuel cursor bytes) := by
  induction fuel generalizing cursor bytes with
  | zero => exact .ok trivial
  | succ fuel ih =>
      unfold readPercents
      refine .ite ?_ (.ok trivial)
      dsimp only
      split
      · exact .ite (ih _ _) yields_malformed
      · exact yields_malformed

theorem clean_readUriChars (fuel : Nat) (cursor : Cursor) (text : List Char) :
    Clean (readUriChars fuel cursor text) := by
  induction fuel generalizing cursor text with
  | zero => exact .ok trivial
  | succ fuel ih =>
      unfold readUriChars
      split
      · refine (clean_readPercents _ _ _).bind fun ⟨bytes, cursor⟩ _ => ?_
        dsimp only
        split
        · exact ih _ _
        · exact yields_malformed
      · exact .ite (ih _ _) (.ok trivial)
      · exact .ok trivial

theorem clean_readUri (cursor : Cursor) : Clean (readUri cursor) :=
  (clean_readUriChars _ _ _).bind fun ⟨_, _⟩ _ => .ite yields_malformed (.pure trivial)

theorem clean_readHandle (cursor : Cursor) : Clean (readHandle cursor) :=
  .ite yields_malformed (.ite (.ok trivial) (.ite (.ok trivial) yields_malformed))

theorem clean_readVersionNumber (cursor : Cursor) : Clean (readVersionNumber cursor) := by
  unfold readVersionNumber
  dsimp only
  refine .ite yields_malformed ?_
  split
  · exact .ok trivial
  · exact .error (Escape.version ‹_›)

theorem clean_readVersion (cursor : Cursor) : Clean (readVersion cursor) := by
  refine (clean_readVersionNumber _).bind fun ⟨major, cursor⟩ _ => ?_
  refine .ite yields_malformed ?_
  refine (clean_readVersionNumber _).bind fun ⟨minor, cursor⟩ _ => ?_
  exact .ite (.pure trivial) yields_malformed

theorem clean_readHandleDirective (cursor : Cursor) : Clean (readHandleDirective cursor) := by
  refine (clean_readHandle _).bind fun ⟨handle, cursor⟩ _ => ?_
  refine .ite yields_malformed ?_
  refine (clean_readUri _).bind fun ⟨expansion, cursor⟩ _ => ?_
  exact .ite (.pure trivial) yields_malformed

/-- A token that stands where reading stopped says why. -/
def Calm : Token → Prop
  | .stopped stop => Harmless stop
  | _ => True

theorem yields_calm_readTag (cursor : Cursor) :
    Yields (fun read => read.1.Calm) (readTag cursor) := by
  have hend (token : Token) (cursor : Cursor) (htoken : token.Calm) :
      Yields (fun read => read.1.Calm)
        (if cursor.atGap then pure (token, cursor) else malformed) :=
    .ite (.pure htoken) yields_malformed
  unfold readTag
  split
  · refine (clean_readUri _).bind fun ⟨text, cursor⟩ _ => ?_
    exact .ite (hend _ _ trivial) yields_malformed
  · refine .ite (hend _ _ trivial) ?_
    refine .ite ((clean_readHandle _).bind fun ⟨handle, cursor⟩ _ => ?_) ?_ <;>
      exact (clean_readUri _).bind fun ⟨suffix, cursor⟩ _ => hend _ _ trivial

theorem yields_calm_readDirective (cursor : Cursor) :
    Yields (fun read => read.1.Calm) (readDirective cursor) := by
  refine (clean_readName _).bind fun ⟨name, cursor⟩ _ => ?_
  refine .ite yields_malformed ?_
  have hend (content : Directive) (cursor : Cursor) :
      Yields (fun read : Token × Cursor => read.1.Calm)
        (cursor.finishLine >>= fun cursor => pure (.directive content, cursor)) :=
    (clean_finishLine _).bind fun _ _ => .pure trivial
  dsimp only
  split
  · exact (clean_readVersion _).bind fun ⟨content, cursor⟩ _ => hend content cursor
  · exact (clean_readHandleDirective _).bind fun ⟨content, cursor⟩ _ => hend content cursor
  · exact hend _ _

end Token

end Conformance.Yaml
