import Conformance.Value.Number

/-!
# Equality

Numbers are equal by value whatever their type, texts likewise, and containers by their items.
Records are equal when each entry of one is found in the other and none is left over; only two
ordered records compare their order as well.
-/

namespace Conformance

namespace Value

/-- Equality of values without items. -/
def atomEqual (left right : Value) : Bool :=
  match left.number?, right.number? with
  | some a, some b => a.equal b
  | _, _ =>
    match left.text?, right.text? with
    | some a, some b => a == b
    | _, _ =>
      match left, right with
      | .null, .null | .missing, .missing => true
      | .bytes a, .bytes b => a == b
      | .member a, .member b => a == b
      | .pattern a, .pattern b => a == b
      | .date a, .date b => a == b
      | .moment a, .moment b =>
        match a.offset, b.offset with
        | some x, some y => a.universal x == b.universal y
        | none, none => a.clock == b.clock
        | _, _ => false
      | _, _ => false

mutual

def equal (left right : Value) : Bool :=
  match left with
  | .list xs | .listSubtype xs =>
    match right with
    | .list ys | .listSubtype ys => equalItems xs ys
    | _ => false
  | .tuple xs =>
    match right with
    | .tuple ys => equalItems xs ys
    | _ => false
  | .dict es =>
    match right with
    | .dict fs | .orderedDict fs => es.length == fs.length && equalEntries es fs
    | _ => false
  | .orderedDict es =>
    match right with
    | .dict fs => es.length == fs.length && equalEntries es fs
    | .orderedDict fs =>
      es.length == fs.length && equalEntries es fs && equalKeys es fs
    | _ => false
  | .set xs =>
    match right with
    | .set ys => xs.length == ys.length && equalMembers xs ys
    | _ => false
  | .complexSchema a b c d e f g h =>
    match right with
    | .complexSchema a' b' c' d' e' f' g' h' =>
      equal a a' && equal b b' && equal c c' && equal d d' && equal e e' && equal f f'
        && equal g g' && equal h h'
    | _ => false
  | .arraySchema a b c d e =>
    match right with
    | .arraySchema a' b' c' d' e' =>
      equal a a' && equal b b' && equal c c' && equal d d' && equal e e'
    | _ => false
  | .objectSchema a b c =>
    match right with
    | .objectSchema a' b' c' => equal a a' && equal b b' && equal c c'
    | _ => false
  | .stringSchema a =>
    match right with
    | .stringSchema a' => equal a a'
    | _ => false
  | .numberSchema a b c d e =>
    match right with
    | .numberSchema a' b' c' d' e' =>
      equal a a' && equal b b' && equal c c' && equal d d' && equal e e'
    | _ => false
  | .attributes es =>
    match right with
    | .attributes fs => es.length == fs.length && equalAttributes es fs
    | _ => false
  | .recursive _ entry =>
    match right with
    | .recursive _ entry' => entry == entry'
    | _ => false
  | _ => atomEqual left right
termination_by structural left

def equalItems (left right : List Value) : Bool :=
  match left, right with
  | [], [] => true
  | x :: xs, y :: ys => equal x y && equalItems xs ys
  | _, _ => false
termination_by structural left

def equalEntries (left : List (Value × Value)) (right : List (Value × Value)) : Bool :=
  match left with
  | [] => true
  | (key, value) :: rest =>
    (match right.find? fun e => equal key e.1 with
      | some e => equal value e.2
      | none => false) && equalEntries rest right
termination_by structural left

def equalKeys (left : List (Value × Value)) (right : List (Value × Value)) : Bool :=
  match left, right with
  | [], [] => true
  | (key, _) :: rest, e :: rest' => equal key e.1 && equalKeys rest rest'
  | _, _ => false
termination_by structural left

def equalMembers (left right : List Value) : Bool :=
  match left with
  | [] => true
  | x :: xs => right.any (fun y => equal x y) && equalMembers xs right
termination_by structural left

def equalAttributes (left right : List (String × Value)) : Bool :=
  match left with
  | [] => true
  | (name, value) :: rest =>
    (match right.find? fun e => e.1 == name with
      | some e => equal value e.2
      | none => false) && equalAttributes rest right
termination_by structural left

end

/-- The value stored under a key equal to the given one. -/
def find? (entries : Entries) (key : Value) : Option Value :=
  (entries.find? fun e => equal key e.1).map (·.2)

/-- Stores a value under a key: an equal key keeps its place and its first spelling. -/
def store (entries : Entries) (key value : Value) : Entries :=
  match entries with
  | [] => [(key, value)]
  | (k, v) :: rest => if equal k key then (k, value) :: rest else (k, v) :: store rest key value

def ofPairs (pairs : Entries) : Entries :=
  pairs.foldl (fun entries e => store entries e.1 e.2) []

end Value

end Conformance
