import Conformance.Yaml.Implicit
import Conformance.Yaml.Token

/-!
# From tokens to a graph

One function for each construct. Where a node may be left out, the tokens that may follow it tell
that it is; the node is then an empty scalar. Fuel bounds the nesting of calls, each of which
takes a token or is followed by one that does.
-/

namespace Conformance.Yaml

structure ParseState where
  tokens : List Token
  graph : Graph
  anchors : List (String × Nat)
  handles : List (String × String)

abbrev Parse := StateT ParseState Reading

namespace Parse

def fail : Parse α := fun _ => malformed

/-- The next token. Where reading of the text stopped, parsing stops as well. -/
def peek : Parse Token := do
  match (← get).tokens with
  | [] => fail
  | .stopped stop :: _ => fun _ => .error stop
  | token :: _ => return token

def skip : Parse Unit := modify fun s => { s with tokens := s.tokens.drop 1 }

def expect (token : Token) : Parse Unit := do
  if (← peek) == token then skip else fail

def accept (token : Token) : Parse Bool := do
  if (← peek) == token then
    skip
    return true
  else return false

/-- Reserves a place in the graph, under the name of an anchor if there is one. -/
def reserve (anchor : Option String) : Parse Nat := do
  let s ← get
  let place := s.graph.size
  set { s with graph := s.graph.push .absent }
  match anchor with
  | none => return place
  | some name =>
    if s.anchors.any (·.1 == name) then fail
    else
      modify fun s => { s with anchors := (name, place) :: s.anchors }
      return place

def fill (place : Nat) (node : Node) : Parse Unit :=
  modify fun s => { s with graph := s.graph.setIfInBounds place node }

def addScalar (anchor : Option String) (tag text : String) : Parse Nat := do
  let place ← reserve anchor
  fill place ⟨tag, .scalar text⟩
  return place

def empty : Parse Nat := addScalar none (coreTag "null") ""

structure Properties where
  anchor : Option String
  tag : Option String

def expandTag (handle : Option String) (suffix : String) : Parse String := do
  match handle with
  | none => return suffix
  | some handle =>
    match (← get).handles.find? (·.1 == handle) with
    | some (_, expansion) => return expansion ++ suffix
    | none => fail

/-- An anchor and a tag in either order, both optional. -/
def properties : Parse Properties := do
  match ← peek with
  | .anchor name =>
    skip
    match ← peek with
    | .tag handle suffix =>
      skip
      return ⟨some name, some (← expandTag handle suffix)⟩
    | _ => return ⟨some name, none⟩
  | .tag handle suffix =>
    skip
    match ← peek with
    | .anchor name =>
      skip
      return ⟨some name, some (← expandTag handle suffix)⟩
    | _ => return ⟨none, some (← expandTag handle suffix)⟩
  | _ => return ⟨none, none⟩

/-- A tag that leaves the choice to the content. -/
def Properties.isOpen (properties : Properties) : Bool :=
  match properties.tag with
  | none => true
  | some tag => tag == "!"

def Properties.tagOr (properties : Properties) (tag : String) : String :=
  if properties.isOpen then tag else properties.tag.getD tag

/-- The tag of a scalar: a quoted one without any tag is a text. -/
def Properties.scalarTag (properties : Properties) (text : String) (plain : Bool) : String :=
  if properties.tag.isNone && !plain then coreTag "str" else properties.tagOr (implicitTag text)

/-- Where a node stands: between brackets, in a block, or where entries of a sequence need no
indentation. -/
inductive Position
  | flow
  | block
  | indentless
  deriving DecidableEq

mutual

def node (position : Position) : Nat → Parse Nat
  | 0 => fail
  | fuel + 1 => do
    match ← peek with
    | .alias name =>
      skip
      match (← get).anchors.find? (·.1 == name) with
      | some (_, place) => return place
      | none => fail
    | _ => content position (← properties) fuel

/-- The content of a node, which is empty only behind properties. -/
def content (position : Position) (properties : Properties) : Nat → Parse Nat
  | 0 => fail
  | fuel + 1 => do
    let collect (tag : String) (body : Parse Content) : Parse Nat := do
      let place ← reserve properties.anchor
      fill place ⟨properties.tagOr (coreTag tag), ← body⟩
      return place
    let token ← peek
    if position = .indentless && token == .blockEntry then
      collect "seq" (return .sequence (← indentlessItems fuel))
    else
      match token with
      | .scalar text plain =>
        skip
        addScalar properties.anchor (properties.scalarTag text plain) text
      | .flowSequenceStart =>
        skip
        collect "seq" (return .sequence (← flowItems true fuel))
      | .flowMappingStart =>
        skip
        collect "map" (return .mapping (← flowPairs true fuel))
      | token =>
        if token == .blockSequenceStart && position ≠ .flow then
          skip
          collect "seq" (return .sequence (← blockItems fuel))
        else if token == .blockMappingStart && position ≠ .flow then
          skip
          collect "map" (return .mapping (← blockPairs fuel))
        else if properties.anchor.isSome || properties.tag.isSome then
          addScalar properties.anchor (properties.tagOr (coreTag "null")) ""
        else fail

def optional (position : Position) (stops : List Token) : Nat → Parse Nat
  | 0 => fail
  | fuel + 1 => do
    if stops.contains (← peek) then empty else node position fuel

def blockItems : Nat → Parse (List Nat)
  | 0 => fail
  | fuel + 1 => do
    if ← accept .blockEntry then
      let item ← optional .block [.blockEntry, .blockEnd] fuel
      return item :: (← blockItems fuel)
    else
      expect .blockEnd
      return []

def indentlessItems : Nat → Parse (List Nat)
  | 0 => fail
  | fuel + 1 => do
    if ← accept .blockEntry then
      let item ← optional .block [.blockEntry, .key, .value, .blockEnd] fuel
      return item :: (← indentlessItems fuel)
    else return []

def blockPairs : Nat → Parse (List (Nat × Nat))
  | 0 => fail
  | fuel + 1 => do
    let stops := [.key, .value, .blockEnd]
    if ← accept .key then
      let key ← optional .indentless stops fuel
      let value ← if ← accept .value then optional .indentless stops fuel else empty
      return (key, value) :: (← blockPairs fuel)
    else
      expect .blockEnd
      return []

def flowItems (first : Bool) : Nat → Parse (List Nat)
  | 0 => fail
  | fuel + 1 => do
    if ← accept .flowSequenceEnd then return []
    if !first then expect .flowEntry
    match ← peek with
    | .flowSequenceEnd =>
      skip
      return []
    | .key =>
      let place ← reserve none
      fill place ⟨coreTag "map", .mapping [← flowPair [.flowEntry, .flowSequenceEnd] fuel]⟩
      return place :: (← flowItems false fuel)
    | _ =>
      let item ← node .flow fuel
      return item :: (← flowItems false fuel)

/-- A key with its mark, and its value; each may be left out. -/
def flowPair (stops : List Token) : Nat → Parse (Nat × Nat)
  | 0 => fail
  | fuel + 1 => do
    expect .key
    let key ← optional .flow (.value :: stops) fuel
    let value ← if ← accept .value then optional .flow stops fuel else empty
    return (key, value)

def flowPairs (first : Bool) : Nat → Parse (List (Nat × Nat))
  | 0 => fail
  | fuel + 1 => do
    if ← accept .flowMappingEnd then return []
    if !first then expect .flowEntry
    match ← peek with
    | .flowMappingEnd =>
      skip
      return []
    | .key =>
      let pair ← flowPair [.flowEntry, .flowMappingEnd] fuel
      return pair :: (← flowPairs false fuel)
    | _ =>
      let key ← node .flow fuel
      let value ← empty
      return (key, value) :: (← flowPairs false fuel)

end

/-- The handles that need no declaration. -/
def standardHandles : List (String × String) := [("!", "!"), ("!!", coreStem)]

/-- The directives before a document: at most one version, which must be a first one, and no
handle twice. -/
def directives : Nat → Bool → List (String × String) → Parse (List (String × String))
  | 0, _, _ => fail
  | fuel + 1, versioned, handles => do
    match ← peek with
    | .directive directive =>
      skip
      match directive with
      | .version major => if versioned || major ≠ 1 then fail else directives fuel true handles
      | .handle name expansion =>
        if handles.any (·.1 == name) then fail
        else directives fuel versioned ((name, expansion) :: handles)
      | .other => directives fuel versioned handles
    | _ => return handles

def skipDocumentEnds : Nat → Parse Unit
  | 0 => fail
  | fuel + 1 => do
    if ← accept .documentEnd then skipDocumentEnds fuel

def documentContent (fuel : Nat) : Parse Nat := do
  match ← peek with
  | .directive _ | .documentStart | .documentEnd | .streamEnd => empty
  | _ => node .block fuel

/-- A document with its marks, absent when there is none. -/
def document (fuel : Nat) : Parse (Option Nat) := do
  match ← peek with
  | .streamEnd => return none
  | .directive _ | .documentStart =>
    let handles ← directives fuel false []
    modify fun s => { s with handles := handles ++ standardHandles }
    expect .documentStart
    return some (← documentContent fuel)
  | _ => return some (← node .block fuel)

def stream (fuel : Nat) : Parse (Option Nat) := do
  match ← document fuel with
  | none => return none
  | some root =>
    skipDocumentEnds fuel
    expect .streamEnd
    return some root

end Parse

/-- The graph of the only document that tokens write, with its root; absent when they write
none. -/
def Graph.ofTokens (tokens : List Token) : Reading (Option (Graph × Nat)) := do
  let fuel := 4 * tokens.length + 8
  let (root?, s) ← (Parse.stream fuel).run ⟨tokens, #[], [], Parse.standardHandles⟩
  return root?.map (s.graph, ·)

end Conformance.Yaml
