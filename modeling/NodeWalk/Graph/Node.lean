import NodeWalk.Fault
import NodeWalk.Value.Objects

set_option autoImplicit false

/-!
# Nodes

A node has a type, parameters in order, and control data for its behavior. A
parameter is tagged once: it is a literal, or it refers to an output socket of
another node. Nodes put together by hand are not checked, so their type and
control data may be any value; a node of a graph document has a text as its type.
-/
namespace NodeWalk

inductive Parameter where
  | literal (v : Value)
  | reference (node socket : Value)
deriving DecidableEq

/-- Control data: what stood in an object when the node was parsed, or a value
that was put there by hand. -/
inductive Flow where
  | entries (entries : Entries Value)
  | value (v : Value)
deriving DecidableEq

structure Node where
  type : Value
  parameters : List (Text × Parameter)
  flow : Flow
deriving DecidableEq

structure Graph where
  nodes : List Node
  entry : Int
  name : Option Text
deriving DecidableEq

namespace NodeType

def parts (type : Text) : Text × Text :=
  let cs := type.points
  (⟨cs.takeWhile (· != .char '.')⟩, ⟨(cs.dropWhile (· != .char '.')).drop 1⟩)

def ofValue (h : Objects) : Value → Except Fault Text
  | .text s => .ok s
  | v => .error (.lacks (h.kind v) "partition")

def split (type : Text) : Except Fault (Text × Text) :=
  let (category, name) := parts type
  if category = "" ∨ name = "" then .error (.unknownType type none) else .ok (category, name)

end NodeType

namespace Node

def category (h : Objects) (n : Node) : Except Fault Text :=
  (NodeType.ofValue h n.type).map fun s => (NodeType.parts s).1

def name (h : Objects) (n : Node) : Except Fault Text :=
  (NodeType.ofValue h n.type).map fun s => (NodeType.parts s).2

end Node

inductive Draft where
  | tagged (p : Parameter)
  | untagged (v : Value)
deriving DecidableEq

/-- A node as it is submitted: a record of a document, or put together by hand. -/
inductive NodeSource where
  | record (v : Value)
  | assembled (type : Value) (parameters : List (Text × Draft)) (flow : Flow)
deriving DecidableEq

def Node.source (n : Node) : NodeSource :=
  .assembled n.type (n.parameters.map fun p => (p.1, .tagged p.2)) n.flow

/-- The nodes of a run: a list of them, or a value to be taken apart. -/
inductive Submission where
  | list (sources : List NodeSource)
  | value (v : Value)

end NodeWalk
