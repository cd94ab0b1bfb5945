import Conformance.Yaml.Cursor

/-!
# Graphs of nodes

A document is a graph: an alias leads to the node that its anchor names, also from inside that
node. Nodes are named by their places in the graph.
-/

namespace Conformance.Yaml

inductive Content
  | scalar (text : String)
  | sequence (items : List Nat)
  | mapping (pairs : List (Nat × Nat))
  deriving DecidableEq

structure Node where
  tag : String
  content : Content
  deriving DecidableEq

abbrev Graph := Array Node

/-- The stem of the tags that the format defines. -/
def coreStem : String := "tag:yaml.org,2002:"

def coreTag (name : String) : String := coreStem ++ name

/-- Stands for a node that is not there. -/
def Node.absent : Node := ⟨coreTag "null", .scalar ""⟩

def Graph.node (graph : Graph) (place : Nat) : Node := graph[place]?.getD .absent

end Conformance.Yaml
