import Conformance.Regex.Syntax

/-!
# Matching by backtracking

A node is matched with a continuation that must accept the place after it. Alternatives are tried
in order, and a repetition stops when its body matched without advancing, so the number of rounds
is bounded by the rest of the subject.
-/

namespace Conformance.Regex

structure Capture where
  index : Nat
  first : Nat
  last : Nat

/-- A place in the subject and what has been captured so far, latest first. -/
structure Place where
  position : Nat
  captures : List Capture

def Place.capture? (place : Place) (index : Nat) : Option Capture :=
  place.captures.find? (·.index == index)

abbrev Continuation := Place → Option Place

abbrev Matcher := Place → Continuation → Option Place

def Anchor.holds (subject : Array Nat) (position : Nat) : Anchor → Bool
  | .textStart => position == 0
  | .textEnd => position == subject.size
  | .lineStart => position == 0 || subject[position - 1]? == some 0x0a
  | .lineEnd => position == subject.size || subject[position]? == some 0x0a
  | .lastLineEnd =>
    position == subject.size
      || (position + 1 == subject.size && subject[position]? == some 0x0a)
  | .boundary negated ascii =>
    let word (code? : Option Nat) : Bool :=
      match code? with
      | some code => Category.word.holds ascii code
      | none => false
    let before := if position = 0 then false else word subject[position - 1]?
    !subject.isEmpty && (before != word subject[position]?) != negated

def matchTimes (body : Matcher) : Nat → Matcher
  | 0, place, next => next place
  | count + 1, place, next => body place fun place => matchTimes body count place next

def roundAllowed (most : Option Nat) (count : Nat) : Bool :=
  match most with
  | some most => count < most
  | none => true

/-- As many rounds as possible first. `last` is where the previous round began. -/
def matchGreedy (body : Matcher) (most : Option Nat) : Nat → Nat → Option Nat → Matcher
  | 0, _, _, place, next => next place
  | fuel + 1, count, last, place, next =>
    if roundAllowed most count && last != some place.position then
      match body place fun after =>
          matchGreedy body most fuel (count + 1) (some place.position) after next with
      | some result => some result
      | none => next place
    else next place

def matchLazy (body : Matcher) (most : Option Nat) : Nat → Nat → Option Nat → Matcher
  | 0, _, _, place, next => next place
  | fuel + 1, count, last, place, next =>
    match next place with
    | some result => some result
    | none =>
      if roundAllowed most count && last != some place.position then
        body place fun after =>
          matchLazy body most fuel (count + 1) (some place.position) after next
      else none

def takeTimes (body : Matcher) : Nat → Place → Option Place
  | 0, place => some place
  | count + 1, place => (body place some).bind (takeTimes body count)

/-- As many rounds as possible, each in the first way that there is. -/
def takeAll (body : Matcher) (most : Option Nat) : Nat → Nat → Option Nat → Place → Place
  | 0, _, _, place => place
  | fuel + 1, count, last, place =>
    if roundAllowed most count && last != some place.position then
      match body place some with
      | some after => takeAll body most fuel (count + 1) (some place.position) after
      | none => place
    else place

/-- Does the subject repeat a stretch of itself from `position` on? -/
def repeats (subject : Array Nat) (folding : Folding) (first position : Nat) : Nat → Bool
  | 0 => true
  | count + 1 =>
    match subject[first]?, subject[position]? with
    | some a, some b =>
      folding.representative a == folding.representative b
        && repeats subject folding (first + 1) (position + 1) count
    | _, _ => false

def Node.matches (subject : Array Nat) : Node → Matcher
  | .empty, place, next => next place
  | .char cls, place, next =>
    match subject[place.position]? with
    | some code =>
      if cls.holds code then next { place with position := place.position + 1 } else none
    | none => none
  | .anyChar newline, place, next =>
    match subject[place.position]? with
    | some code =>
      if newline || code != 0x0a then next { place with position := place.position + 1 } else none
    | none => none
  | .anchor condition, place, next =>
    if condition.holds subject place.position then next place else none
  | .sequence first second, place, next =>
    first.matches subject place fun place => second.matches subject place next
  | .either first second, place, next =>
    match first.matches subject place next with
    | some result => some result
    | none => second.matches subject place next
  | .group index body, place, next =>
    body.matches subject place fun after =>
      next { after with captures := ⟨index, place.position, after.position⟩ :: after.captures }
  | .repetition greed least most body, place, next =>
    let rounds := subject.size + 2
    match greed with
    | .greedy =>
      matchTimes (body.matches subject) least place fun place =>
        matchGreedy (body.matches subject) most rounds least none place next
    | .lazy =>
      matchTimes (body.matches subject) least place fun place =>
        matchLazy (body.matches subject) most rounds least none place next
    | .possessive =>
      match takeTimes (body.matches subject) least place with
      | some place => next (takeAll (body.matches subject) most rounds least none place)
      | none => none
  | .ahead negated body, place, next =>
    match body.matches subject place some with
    | some after => if negated then none else next { after with position := place.position }
    | none => if negated then next place else none
  | .behind negated width body, place, next =>
    let found :=
      if width ≤ place.position then
        body.matches subject { place with position := place.position - width } some
      else none
    match found with
    | some after => if negated then none else next { after with position := place.position }
    | none => if negated then next place else none
  | .backReference index folding, place, next =>
    match place.capture? index with
    | some capture =>
      let width := capture.last - capture.first
      if repeats subject folding capture.first place.position width then
        next { place with position := place.position + width }
      else none
    | none => none
  | .conditional index present absent, place, next =>
    match place.capture? index with
    | some _ => present.matches subject place next
    | none => absent.matches subject place next
  | .atomic body, place, next =>
    match body.matches subject place some with
    | some after => next after
    | none => none

def Node.search (node : Node) (subject : Array Nat) : Bool :=
  (List.range (subject.size + 1)).any fun start =>
    (node.matches subject ⟨start, []⟩ some).isSome

end Conformance.Regex
