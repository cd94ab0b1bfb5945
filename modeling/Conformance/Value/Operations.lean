import Conformance.Value.Equality
import Conformance.Value.Printed

/-!
# Operations on values

Order, membership, length and the like. Each is defined for the types that have it and
faults on all others.
-/

namespace Conformance

namespace Value

inductive Comparison
  | below
  | above
  deriving DecidableEq

def Comparison.symbol : Comparison → String
  | .below => "<"
  | .above => ">"

/-- Applies a strict order to its operands in the right sense. -/
def Comparison.apply (comparison : Comparison) (less : α → α → Bool) (left right : α) : Bool :=
  match comparison with
  | .below => less left right
  | .above => less right left

def Comparison.flip : Comparison → Comparison
  | .below => .above
  | .above => .below

/-- Values without an order. When the comparison was turned round, the fault tells it so. -/
def unordered (turned : Bool) (comparison : Comparison) (left right : Value) : Fault :=
  .type <|
    if turned then .unordered comparison.flip.symbol right.typeLabel left.typeLabel
    else .unordered comparison.symbol left.typeLabel right.typeLabel

def atomCompare (turned : Bool) (comparison : Comparison) (left right : Value) :
    Except Fault Bool :=
  match left.number?, right.number? with
  | some a, some b => .ok (comparison.apply Number.less a b)
  | _, _ =>
    match left.text?, right.text? with
    | some a, some b => .ok (comparison.apply (fun a b : String => a < b) a b)
    | _, _ =>
      match left, right with
      | .bytes a, .bytes b => .ok (comparison.apply (fun a b : List UInt8 => a < b) a b)
      | .date a, .date b => .ok (comparison.apply Date.less a b)
      | .date _, .moment _ | .moment _, .date _ =>
        .error (.type (.dateAndTime "datetime.datetime" "datetime.date"))
      | .moment a, .moment b =>
        match a.offset, b.offset with
        | some x, some y =>
          .ok (comparison.apply (fun a b : Int => a < b) (a.universal x) (b.universal y))
        | none, none => .ok (comparison.apply (fun a b : Int => a < b) a.clock b.clock)
        | _, _ => .error (.type .naiveAndAware)
      | _, _ => .error (unordered turned comparison left right)

/-- Is the operand that a comparison names second a list of the subtype, and the first a plain one?
Then the second decides, and the comparison is turned round. -/
def turns (turned : Bool) (left right : Value) : Bool :=
  match turned, left, right with
  | false, .list _, .listSubtype _ | true, .listSubtype _, .list _ => true
  | _, _, _ => false

mutual

/-- Lists and tuples are ordered by their first difference, sets by inclusion. -/
def compareTurned (turned : Bool) (comparison : Comparison) (left right : Value) :
    Except Fault Bool :=
  match left with
  | .list xs | .listSubtype xs =>
    match right with
    | .list ys | .listSubtype ys =>
      compareItems (turned != turns turned left right) comparison xs ys
    | _ => .error (unordered turned comparison left right)
  | .tuple xs =>
    match right with
    | .tuple ys => compareItems turned comparison xs ys
    | _ => .error (unordered turned comparison left right)
  | .set xs =>
    match right with
    | .set ys =>
      .ok <|
        match comparison with
        | .below => xs.length < ys.length && equalMembers xs ys
        | .above => ys.length < xs.length && equalMembers ys xs
    | _ => .error (unordered turned comparison left right)
  | _ => atomCompare turned comparison left right
termination_by structural left

def compareItems (turned : Bool) (comparison : Comparison) (left right : List Value) :
    Except Fault Bool :=
  match left, right with
  | [], ys => .ok (comparison.apply (fun a b : Nat => a < b) 0 ys.length)
  | _ :: _, [] => .ok (comparison.apply (fun a b : Nat => a < b) 1 0)
  | x :: xs, y :: ys =>
    if equal x y then compareItems turned comparison xs ys
    else compareTurned turned comparison x y
termination_by structural left

end

def compare (comparison : Comparison) (left right : Value) : Except Fault Bool :=
  compareTurned false comparison left right

/-- Opens a recursive value down to a depth; below it containers are empty. -/
def unroll : Nat → Value → Value
  | 0, value =>
    match value.layer with
    | .list _ => .list []
    | .tuple _ => .tuple []
    | .dict _ => .dict []
    | value => value
  | depth + 1, value =>
    match value.layer with
    | .list items => .list (items.map (unroll depth))
    | .tuple items => .tuple (items.map (unroll depth))
    | .dict entries => .dict (entries.map fun e => (e.1, unroll depth e.2))
    | value => value

/-- A finite value that differs from others of the same document where the recursive one does. -/
def settled (value : Value) : Value :=
  match value with
  | .recursive heap _ => value.unroll heap.length
  | _ => value

/-- A list item with its place, by which it is recognised after sorting. -/
structure Placed where
  place : Nat
  value : Value

def placedBelow (a b : Placed) : Except Fault Bool := compare .below a.value.settled b.value.settled

/-- Inserts into the sorted segment `sorted` by halving; equal items stay in order. -/
def insertionPoint (sorted : Array Placed) (pivot : Placed) :
    Nat → Nat → Nat → Except Fault Nat
  | 0, low, _ => .ok low
  | fuel + 1, low, high =>
    if low < high then do
      let middle := (low + high) / 2
      match sorted[middle]? with
      | none => return low
      | some item =>
        if ← placedBelow pivot item then insertionPoint sorted pivot fuel low middle
        else insertionPoint sorted pivot fuel (middle + 1) high
    else .ok low

def insertAll (sorted : Array Placed) : List Placed → Except Fault (Array Placed)
  | [] => .ok sorted
  | pivot :: rest => do
    let point ← insertionPoint sorted pivot (sorted.size + 1) 0 sorted.size
    insertAll (sorted.take point ++ #[pivot] ++ sorted.drop point) rest

/-- The run that a list starts with, as far as it keeps descending or not descending. -/
def takeRun (descending : Bool) (last : Placed) :
    List Placed → Except Fault (List Placed × List Placed)
  | [] => .ok ([], [])
  | item :: rest => do
    if (← placedBelow item last) == descending then
      let (run, after) ← takeRun descending item rest
      return (item :: run, after)
    else return ([], item :: rest)

/-- Stable sorting: the first run is taken as a whole, the rest inserted item by item. -/
def sortItems (items : List Placed) : Except Fault (List Placed) :=
  match items with
  | a :: b :: rest => do
    let descending ← placedBelow b a
    let (run, after) ← takeRun descending b rest
    let first := a :: b :: run
    let sorted ← insertAll (if descending then first.reverse else first).toArray after
    return sorted.toList
  | _ => .ok items

def placed (items : List Value) : List Placed :=
  items.zipIdx.map fun (value, place) => ⟨place, value⟩

/-- Is a list its own sorted form? An item that stayed in its place is itself there. -/
def isSorted (items : List Value) : Except Fault Bool := do
  let sorted ← sortItems (placed items)
  return ((placed items).zip sorted).all fun (a, b) => a.place == b.place || equal a.value b.value

def iterate (value : Value) : Except Fault (List Value) :=
  match value.layer with
  | .list items | .listSubtype items | .tuple items | .set items => .ok items
  | .dict entries | .orderedDict entries => .ok (entries.map (·.1))
  | .bytes b => .ok (b.map fun byte => .int byte.toNat)
  | value =>
    match value.text? with
    | some s => .ok (s.toList.map fun c => .str (String.singleton c))
    | none => .error (.type (.notIterable value.typeLabel))

mutual

/-- The type that keeps a value from being a key, if one does. -/
def unhashable? (value : Value) : Option String :=
  match value with
  | .list _ | .listSubtype _ | .dict _ | .orderedDict _ | .set _ | .attributes _ =>
    some value.typeLabel
  | .recursive _ _ => some value.typeLabel
  | .tuple items => unhashableItem? items
  | .complexSchema a b c d e f g h =>
    (unhashable? a).or <| (unhashable? b).or <| (unhashable? c).or <| (unhashable? d).or <|
      (unhashable? e).or <| (unhashable? f).or <| (unhashable? g).or (unhashable? h)
  | .arraySchema a b c d e =>
    (unhashable? a).or <| (unhashable? b).or <| (unhashable? c).or <| (unhashable? d).or
      (unhashable? e)
  | .objectSchema a b c => (unhashable? a).or <| (unhashable? b).or (unhashable? c)
  | .stringSchema a => unhashable? a
  | .numberSchema a b c d e =>
    (unhashable? a).or <| (unhashable? b).or <| (unhashable? c).or <| (unhashable? d).or
      (unhashable? e)
  | _ => none
termination_by structural value

def unhashableItem? (items : List Value) : Option String :=
  match items with
  | [] => none
  | x :: xs => (unhashable? x).or (unhashableItem? xs)
termination_by structural items

end

def lookup (entries : Entries) (key : Value) : Except Fault (Option Value) :=
  match unhashable? key with
  | some typeName => .error (.type (.unhashable typeName))
  | none => .ok (find? entries key)

/-- Does `part` occur in `whole` as a stretch? -/
def occurs [BEq α] (part whole : List α) : Bool :=
  match whole with
  | [] => part.isEmpty
  | _ :: rest => part.isPrefixOf whole || occurs part rest

def contains (container value : Value) : Except Fault Bool :=
  match container.layer with
  | .list items | .listSubtype items | .tuple items => .ok (items.any fun item => equal item value)
  | .set items => do
    match unhashable? value with
    | some typeName => .error (.type (.unhashable typeName))
    | none => return items.any fun item => equal item value
  | .dict entries | .orderedDict entries => (lookup entries value).map (·.isSome)
  | .bytes b =>
    match value with
    | .bytes part => .ok (occurs part b)
    | _ =>
      match value.number? with
      | some (.int n) =>
        if 0 ≤ n ∧ n < 256 then .ok (b.any fun byte => (byte.toNat : Int) == n)
        else .error (.value .byteRange)
      | _ => .error (.type (.subsequence value.typeLabel))
  | container =>
    match container.text? with
    | some s =>
      match value.text? with
      | some part => .ok (occurs part.toList s.toList)
      | none => .error (.type (.substring value.typeLabel))
    | none => .error (.type (.notContainer container.typeLabel))

def length (value : Value) : Except Fault Nat :=
  match value.layer with
  | .list items | .listSubtype items | .tuple items | .set items => .ok items.length
  | .dict entries | .orderedDict entries => .ok entries.length
  | .bytes b => .ok b.length
  | value =>
    match value.text? with
    | some s => .ok s.length
    | none => .error (.type (.noLength value.typeLabel))

def Number.toDouble (a : Number) : Except Fault Binary64 :=
  match a.toDouble? with
  | some x => .ok x
  | none => .error (.overflow .integerToDouble)

def minus (value : Value) (subtrahend : Binary64) : Except Fault Binary64 :=
  match value.number? with
  | some a => do return (← a.toDouble).sub subtrahend
  | none => .error (.type (.operands "-" value.typeLabel "float"))

def Number.remainder (a b : Number) : Except Fault Value :=
  match a, b with
  | .int n, .int m => if m = 0 then .error .integerModuloZero else .ok (.int (n.fmod m))
  | _, _ => do
    match (← a.toDouble).mod? (← b.toDouble) with
    | some x => return .float x
    | none => .error .floatModuloZero

/-- The entry of a record under a key, nothing when there is none. -/
def entry (value key : Value) : Except Fault Value :=
  match value.layer with
  | .dict entries | .orderedDict entries => (lookup entries key).map (·.getD .null)
  | value => .error (.noAttribute value.typeLabel "get")

end Value

end Conformance
