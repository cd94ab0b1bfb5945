import Conformance.Text.Blank
import Conformance.Text.Case
import Conformance.Text.Digit
import Conformance.Text.Word

/-!
# Regular expressions

Subjects are arrays of code points, or of bytes. What a flag means for a part of an expression is
stored in that part.
-/

namespace Conformance.Regex

structure Flags where
  ignoreCase : Bool := false
  multiline : Bool := false
  dotAll : Bool := false
  verbose : Bool := false
  ascii : Bool := false
  deriving DecidableEq

inductive Category
  | digit
  | blank
  | word
  deriving DecidableEq

def Category.holds (ascii : Bool) (code : Nat) : Category → Bool
  | .digit => (!ascii || code < 0x80) && Text.isDigit code
  | .blank =>
    if ascii then (0x09 ≤ code && code ≤ 0x0d) || code == 0x20 else Text.isBlankCode code
  | .word => (!ascii || code < 0x80) && Text.isWord code

inductive Folding
  | none
  | basic
  | full
  deriving DecidableEq

/-- The code points taken for the same letter. -/
def Folding.variants : Folding → Nat → List Nat
  | .none, code => [code]
  | .basic, code =>
    let small := Text.lowerBasic code
    if 0x61 ≤ small ∧ small ≤ 0x7a then [small, small - 32] else [code]
  | .full, code => Text.caseVariants code

/-- The letter that stands for all its variants in a back reference. -/
def Folding.representative : Folding → Nat → Nat
  | .none, code => code
  | .basic, code => Text.lowerBasic code
  | .full, code => Text.lowerCode code

inductive ClassItem
  | range (first last : Nat)
  | category (named : Category) (negated ascii : Bool)
  deriving DecidableEq

def ClassItem.holds (folding : Folding) (code : Nat) : ClassItem → Bool
  | .range first last =>
    (folding.variants code).any fun variant => first ≤ variant && variant ≤ last
  | .category named negated ascii =>
    named.holds ascii (folding.representative code) != negated

/-- A set of characters, perhaps complemented. -/
structure CharClass where
  items : List ClassItem
  negated : Bool
  folding : Folding
  deriving DecidableEq

def CharClass.holds (cls : CharClass) (code : Nat) : Bool :=
  (cls.items.any (·.holds cls.folding code)) != cls.negated

/-- Conditions on a place between characters. An empty text has neither a boundary of words nor a
place that is none. -/
inductive Anchor
  | textStart
  | textEnd
  | lineStart
  | lineEnd
  | lastLineEnd
  | boundary (negated ascii : Bool)
  deriving DecidableEq

/-- Which of several counts a repetition tries first, and whether it may give back. -/
inductive Greed
  | greedy
  | lazy
  | possessive
  deriving DecidableEq

inductive Node
  | empty
  | char (cls : CharClass)
  | anyChar (newline : Bool)
  | anchor (condition : Anchor)
  | sequence (first second : Node)
  | either (first second : Node)
  | group (index : Nat) (body : Node)
  | repetition (greed : Greed) (least : Nat) (most : Option Nat) (body : Node)
  | ahead (negated : Bool) (body : Node)
  | behind (negated : Bool) (width : Nat) (body : Node)
  | backReference (index : Nat) (folding : Folding)
  | conditional (index : Nat) (present absent : Node)
  | atomic (body : Node)
  deriving DecidableEq

/-- The fixed number of characters that a node takes, if it is fixed; `groups` says it of the groups
before it. -/
def Node.width? (groups : Nat → Option Nat) : Node → Option Nat
  | .empty | .anchor _ | .ahead _ _ | .behind _ _ _ => some 0
  | .char _ | .anyChar _ => some 1
  | .sequence first second => do return (← first.width? groups) + (← second.width? groups)
  | .either first second | .conditional _ first second => do
    let a ← first.width? groups
    let b ← second.width? groups
    if a = b then some a else none
  | .group _ body | .atomic body => body.width? groups
  | .repetition _ least most body => do
    let w ← body.width? groups
    if most = some least then some (least * w) else if w = 0 then some 0 else none
  | .backReference index _ => groups index

end Conformance.Regex
