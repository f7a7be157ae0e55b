import PhaseAssertions.Yaml.Token

/-!
# Nodes of YAML documents

A document is a tree of nodes: scalars, sequences, mappings, and aliases that
stand for a node with an anchor.  Tags and anchors are properties of a node;
the line of a node is that of its first property or, without properties, that
of its first token.

Anchors and aliases are numbers here.  Two anchors may have the same number;
an alias of that number stands for the later one.
-/

namespace PhaseAssertions.Yaml

/-- The properties of a node. -/
structure Properties where
  /-- The number of its anchor, if it has one. -/
  anchor : Option Nat := none
  /-- The bytes of its tag, if it has one. -/
  tag : Option (List UInt8) := none
  /-- The number of lines before its line. -/
  line : Nat

/-- A node of a document. -/
inductive Node where
  | alias (number line : Nat)
  | scalar (properties : Properties) (text : String) (style : ScalarStyle)
  | sequence (properties : Properties) (items : List Node)
  | mapping (properties : Properties) (pairs : List (Node × Node))

namespace Node

/-- A scalar that is not written. -/
def empty (line : Nat) : Node :=
  .scalar { line } "" .plain

def line : Node → Nat
  | .alias _ line => line
  | .scalar properties _ _ => properties.line
  | .sequence properties _ => properties.line
  | .mapping properties _ => properties.line

def anchor? : Node → Option Nat
  | .alias _ _ => none
  | .scalar properties _ _ => properties.anchor
  | .sequence properties _ => properties.anchor
  | .mapping properties _ => properties.anchor

mutual

/-- The nodes of a tree, each before the nodes that it consists of. -/
def preorder : Node → List Node
  | .sequence properties items => .sequence properties items :: preorderItems items
  | .mapping properties pairs => .mapping properties pairs :: preorderPairs pairs
  | .scalar properties text style => [.scalar properties text style]
  | .alias number line => [.alias number line]

def preorderItems : List Node → List Node
  | [] => []
  | item :: rest => preorder item ++ preorderItems rest

def preorderPairs : List (Node × Node) → List Node
  | [] => []
  | (key, value) :: rest => preorder key ++ preorder value ++ preorderPairs rest

end

/-- The number of events that a node itself stands for: a collection starts and ends. -/
def eventCount : Node → Nat
  | .alias _ _ => 1
  | .scalar _ _ _ => 1
  | .sequence _ _ => 2
  | .mapping _ _ => 2

end Node

/-- A document that was read. -/
structure Document where
  root : Node
  /-- Whether the stream goes on behind the document. -/
  continued : Bool

namespace Document

/-- What each anchor stands for; of anchors with the same number, the later is first. -/
def targets (document : Document) : List (Nat × Node) :=
  (document.root.preorder.filterMap fun node =>
    node.anchor?.map fun number => (number, node)).reverse

def eventCount (document : Document) : Nat :=
  document.root.preorder.foldl (fun count node => count + node.eventCount) 0

end Document

end PhaseAssertions.Yaml
