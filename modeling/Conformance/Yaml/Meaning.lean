import Conformance.Text.Base64
import Conformance.Text.Split
import Conformance.Value.Operations
import Conformance.Yaml.Timestamp

/-!
# Values of a graph

A scalar means what its tag makes of its text. A collection is first made empty and filled later,
in the order in which collections were met, so that it may contain itself. Collections are entries
of a heap, to which links lead; at the end those that contain no cycle become plain values.
-/

namespace Conformance.Yaml

def refuse (fault : Fault) : Reading α := .error (.fault fault)

def orRefuse (result : Except Fault α) : Reading α := result.mapError .fault

def truthNames : List (String × Bool) :=
  [("yes", true), ("no", false), ("true", true), ("false", false), ("on", true), ("off", false)]

def readTruth (text : String) : Reading Value :=
  let name := String.ofList (Text.lower text.toList)
  match truthNames.find? (·.1 == name) with
  | some (_, b) => .ok (.bool b)
  | none => refuse (.unknownKey (Text.quoted name))

def withoutGroups (text : List Char) : List Char := text.filter (· != '_')

/-- Parts to the base sixty, the last one counting ones. -/
def sexagesimal (parts : List Int) : Int := parts.foldl (fun total part => total * 60 + part) 0

def readNatural (text : List Char) : Reading Int :=
  match text with
  | [] => refuse .indexOutOfRange
  | ['0'] => .ok 0
  | '0' :: 'b' :: digits => orRefuse (Numeral.readInteger 2 digits)
  | '0' :: 'x' :: digits => orRefuse (Numeral.readInteger 16 digits)
  | '0' :: _ => orRefuse (Numeral.readInteger 8 text)
  | _ =>
    if text.contains ':' then
      (orRefuse ((Text.splitOn ':' text).mapM (Numeral.readInteger 10))).map sexagesimal
    else orRefuse (Numeral.readInteger 10 text)

/-- An integer in one of five notations behind an optional sign. -/
def readInteger (text : String) : Reading Value := do
  match withoutGroups text.toList with
  | [] => refuse .indexOutOfRange
  | body =>
    let (negative, digits) := Numeral.takeSign body
    let n ← readNatural digits
    return .int (if negative then -n else n)

/-- Adds parts to the base sixty, the last one first; `base` is what the next one counts. -/
def addSexagesimal : List Binary64 → Int → Binary64 → Except Fault Binary64
  | [], _, total => .ok total
  | part :: rest, base, total => do
    let factor ← (Value.Number.int base).toDouble
    addSexagesimal rest (base * 60) (total.add (part.mul factor))

def readMagnitude (text : List Char) : Reading Binary64 :=
  if text.contains ':' then
    orRefuse do
      let parts ← (Text.splitOn ':' text).mapM Numeral.readDouble
      addSexagesimal parts.reverse 1 .zero
  else orRefuse (Numeral.readDouble text)

/-- The name of the double that is no number, behind an optional sign. -/
def isNanName (text : String) : Bool :=
  (Numeral.takeSign (Text.lower (withoutGroups text.toList))).2 == ['.', 'n', 'a', 'n']

def readDouble (text : String) : Reading Value := do
  match Text.lower (withoutGroups text.toList) with
  | [] => refuse .indexOutOfRange
  | body =>
    let (negative, magnitude) := Numeral.takeSign body
    if magnitude == ['.', 'i', 'n', 'f'] then return .float (.infinite negative)
    else if magnitude == ['.', 'n', 'a', 'n'] then return .float .nan
    else
      let x ← readMagnitude magnitude
      return .float (if negative then x.neg else x)

def readBytes (text : String) : Reading Value :=
  if text.toList.all (·.toNat < 0x80) then
    match Text.decodeBase64 text.toList with
    | some bytes => .ok (.bytes bytes)
    | none => malformed
  else malformed

def scalarReader? (tag : String) : Option (String → Reading Value) :=
  if tag == coreTag "str" then some fun text => .ok (.str text)
  else if tag == coreTag "null" then some fun _ => .ok .null
  else if tag == coreTag "bool" then some readTruth
  else if tag == coreTag "int" then some readInteger
  else if tag == coreTag "float" then some readDouble
  else if tag == coreTag "binary" then some readBytes
  else if tag == coreTag "timestamp" then
    some fun text => orRefuse (readTimestamp text.toList)
  else none

/-! Collections -/

inductive Collection
  | sequence
  | mapping
  | set
  | pairs
  deriving DecidableEq

def collection? (tag : String) : Option Collection :=
  if tag == coreTag "seq" then some .sequence
  else if tag == coreTag "map" then some .mapping
  else if tag == coreTag "set" then some .set
  else if tag == coreTag "omap" || tag == coreTag "pairs" then some .pairs
  else none

def Collection.empty : Collection → Value
  | .sequence | .pairs => .list []
  | .mapping => .dict []
  | .set => .set []

/-- A collection that is still to be filled: its node and its entry in the heap. -/
structure Task where
  collection : Collection
  place : Nat
  entry : Nat

/-- The graph, the values of nodes as far as they are known, the heap, and the tasks that came up,
the latest first. -/
structure Making where
  graph : Graph
  made : Array (Option Value)
  heap : Array Value
  tasks : List Task

abbrev Make := StateT Making Reading

namespace Make

def fail : Make α := fun _ => malformed

def node (place : Nat) : Make Node := do return (← get).graph.node place

def allocate (value : Value) : Make Nat := do
  let s ← get
  set { s with heap := s.heap.push value }
  return s.heap.size

def fill (entry : Nat) (value : Value) : Make Unit :=
  modify fun s => { s with heap := s.heap.setIfInBounds entry value }

/-- The text of a node. A mapping has the text of its default value; after as many steps as there
are nodes a default leads back to itself. -/
def textOf : Nat → Nat → Make String
  | 0, _ => fun _ => refuse .tooDeep
  | fuel + 1, place => do
    match (← node place).content with
    | .scalar text => return text
    | .sequence _ => fail
    | .mapping pairs =>
      let graph := (← get).graph
      match pairs.find? fun pair => (graph.node pair.1).tag == coreTag "value" with
      | some (_, value) => textOf fuel value
      | none => fail

def scalarValue (place : Nat) (node : Node) : Make Value := do
  match scalarReader? node.tag with
  | none => fail
  | some read =>
    let text ← textOf ((← get).graph.size + 1) place
    match node.content with
    | .scalar _ => read text
    | _ =>
      if node.tag == coreTag "timestamp" then
        (refuse (.type (.subject "list")) : Reading Value)
      else read text

/-- The value of a node. A collection is a link to an entry that will be filled. -/
def valueOf (place : Nat) : Make Value := do
  match ((← get).made[place]?).join with
  | some value => return value
  | none =>
    let node ← node place
    let value ←
      match collection? node.tag with
      | some collection =>
        let entry ← allocate collection.empty
        modify fun s => { s with tasks := ⟨collection, place, entry⟩ :: s.tasks }
        pure (Value.link entry)
      | none => scalarValue place node
    modify fun s => { s with made := s.made.setIfInBounds place (some value) }
    return value

def items (place : Nat) : Make (List Nat) := do
  match (← node place).content with
  | .sequence items => return items
  | _ => fail

def pairs (place : Nat) : Make (List (Nat × Nat)) := do
  match (← node place).content with
  | .mapping pairs => return pairs
  | _ => fail

def setPairs (place : Nat) (pairs : List (Nat × Nat)) : Make Unit :=
  modify fun s =>
    { s with graph := s.graph.modify place fun node => { node with content := .mapping pairs } }

def setTag (place : Nat) (tag : String) : Make Unit :=
  modify fun s => { s with graph := s.graph.modify place fun node => { node with tag } }

/-- The pairs that the value of a merge key stands for, merged themselves. Of several mappings the
first is the last to be written over. -/
def mergedPairs (merge : Nat → Make Unit) (place : Nat) : Make (List (Nat × Nat)) := do
  match (← node place).content with
  | .mapping _ =>
    merge place
    pairs place
  | .sequence items =>
    let lists ← items.mapM fun item => do
      let _ ← pairs item
      merge item
      pairs item
    return lists.reverse.flatten
  | .scalar _ => fail

/-- Walks over the pairs of a mapping: `kept` holds, in reverse, those that stay, and `merged`
those that were merged in. A merge that leads back to this mapping does the rest by itself. -/
def mergeInto (merge : Nat → Make Unit) (place : Nat) :
    List (Nat × Nat) → List (Nat × Nat) → List (Nat × Nat) → Make Unit
  | [], kept, merged => setPairs place (merged ++ kept.reverse)
  | (key, value) :: rest, kept, merged => do
    let tag := (← node key).tag
    if tag == coreTag "merge" then
      let remaining := kept.reverse ++ rest
      setPairs place remaining
      let more ← mergedPairs merge value
      let now ← pairs place
      if now == remaining then mergeInto merge place rest kept (merged ++ more)
      else setPairs place (merged ++ more ++ now)
    else
      if tag == coreTag "value" then setTag key (coreTag "str")
      mergeInto merge place rest ((key, value) :: kept) merged

/-- Replaces the merge keys of a mapping by the pairs that they stand for. -/
def merge : Nat → Nat → Make Unit
  | 0, _ => fail
  | fuel + 1, place => do mergeInto (merge fuel) place (← pairs place) [] []

/-- Every merge takes away the pair that asks for it, so the number of pairs bounds the depth. -/
def mergeAll (place : Nat) : Make Unit := do
  let total := (← get).graph.foldl (fun total node =>
    match node.content with
    | .mapping pairs => total + pairs.length
    | _ => total) 0
  merge (total + 1) place

/-- A key with what it is recognised by beside equality: the node, or the name of the double that
is equal to nothing. -/
structure Key where
  identity : Nat
  value : Value

def keyOf (place : Nat) : Make Key := do
  let value ← valueOf place
  let node ← node place
  let named :=
    match node.content with
    | .scalar text => node.tag == coreTag "float" && isNanName text
    | _ => false
  let size := (← get).graph.size
  match value with
  | .link _ => fail
  | value => return ⟨if named then size else place, value⟩

def storeEntry : List (Key × Value) → Key → Value → List (Key × Value)
  | [], key, value => [(key, value)]
  | (k, v) :: rest, key, value =>
    if k.identity == key.identity || Value.equal k.value key.value then (k, value) :: rest
    else (k, v) :: storeEntry rest key value

def entries (place : Nat) : Make Value.Entries := do
  let _ ← pairs place
  mergeAll place
  let stored ← (← pairs place).foldlM (fun stored (key, value) => do
    let key ← keyOf key
    return storeEntry stored key (← valueOf value)) []
  return stored.map fun (key, value) => (key.value, value)

def pairOf (place : Nat) : Make Value := do
  match ← pairs place with
  | [(key, value)] =>
    let key ← valueOf key
    let value ← valueOf value
    return .link (← allocate (.tuple [key, value]))
  | _ => fail

def fillTask (task : Task) : Make Unit := do
  match task.collection with
  | .sequence => fill task.entry (.list (← (← items task.place).mapM valueOf))
  | .mapping => fill task.entry (.dict (← entries task.place))
  | .set => fill task.entry (.set ((← entries task.place).map (·.1)))
  | .pairs => fill task.entry (.list (← (← items task.place).mapM pairOf))

/-- Fills collections until no task is left. Every node gives at most one. -/
def runAll : Nat → Make Unit
  | 0 => fail
  | fuel + 1 => do
    match (← get).tasks.reverse with
    | [] => return ()
    | tasks =>
      modify fun s => { s with tasks := [] }
      tasks.forM fillTask
      runAll fuel

end Make

/-! Plain values -/

def settle? (plain : Array (Option Value)) : Value → Option Value
  | .link entry => (plain[entry]?).join
  | value => some value

def plainOf? (plain : Array (Option Value)) : Value → Option Value
  | .list items => (items.mapM (settle? plain)).map .list
  | .tuple items => (items.mapM (settle? plain)).map .tuple
  | .dict entries =>
    (entries.mapM fun e => (settle? plain e.2).map fun value => (e.1, value)).map .dict
  | value => some value

/-- Settles what can be settled, the latest entries first. -/
def settleRound (heap : Array Value) (plain : Array (Option Value)) : Array (Option Value) :=
  (List.range heap.size).reverse.foldl (fun plain entry =>
    match (plain[entry]?).join with
    | some _ => plain
    | none => plain.setIfInBounds entry (plainOf? plain (heap[entry]?.getD .null))) plain

/-- Rounds until nothing changes any more; each that changes something settles an entry. -/
def settleAll (heap : Array Value) : Nat → Array (Option Value) → Array (Option Value)
  | 0, plain => plain
  | fuel + 1, plain =>
    let next := settleRound heap plain
    if next.countP (·.isSome) = plain.countP (·.isSome) then plain
    else settleAll heap fuel next

/-- A member of an entry that contains a cycle: plain where it can be. -/
def partly (plain : Array (Option Value)) (value : Value) : Value :=
  (settle? plain value).getD value

def partlyPlain (plain : Array (Option Value)) : Value → Value
  | .list items => .list (items.map (partly plain))
  | .tuple items => .tuple (items.map (partly plain))
  | .dict entries => .dict (entries.map fun e => (e.1, partly plain e.2))
  | value => value

/-- The value that a value with links into a heap stands for. -/
def unlink (heap : Array Value) (value : Value) : Value :=
  match value with
  | .link entry =>
    let plain := settleAll heap (heap.size + 1) (Array.replicate heap.size none)
    match (plain[entry]?).join with
    | some value => value
    | none => .recursive (heap.toList.map (partlyPlain plain)) entry
  | value => value

def Graph.value (graph : Graph) (root : Nat) : Reading Value := do
  let start : Making := ⟨graph, Array.replicate graph.size none, #[], []⟩
  let make : Make Value := do
    let value ← Make.valueOf root
    Make.runAll (graph.size + 2)
    return value
  let (value, s) ← StateT.run make start
  return unlink s.heap value

end Conformance.Yaml
