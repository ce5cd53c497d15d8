import NodeWalk.Graph.Form
import NodeWalk.Graph.Node
import NodeWalk.Value.Unfold

set_option autoImplicit false

/-!
# From documents to nodes

Tagging parameters and building nodes. An object with the key `$node` is a
reference and has to be a well-formed one; every other value is a literal. The
first fault stops the parsing and is reported with the type and the position of
its node.
-/
namespace NodeWalk

namespace Parameter

def ofValue (h : Objects) (v : Value) : Except Fault Parameter :=
  match h.entries? v with
  | none => .ok (.literal v)
  | some es =>
    match Entries.get? "$node" es with
    | none => .ok (.literal v)
    | some (.int n) =>
      match Entries.get? "socket" es with
      | some (.text s) =>
        if s = "" then .error (Fault.graph (.referenceSocket n)).settled
        else .ok (.reference (.int n) (.text s))
      | _ => .error (Fault.graph (.referenceSocket n)).settled
    | some index => .error (Fault.graph (.referenceIndex (h.unfold index))).settled

def ofDraft (h : Objects) : Draft → Except Fault Parameter
  | .tagged p => .ok p
  | .untagged v => ofValue h v

def ofDrafts (h : Objects) : List (Text × Draft) → Except Fault (List (Text × Parameter))
  | [] => .ok []
  | (k, d) :: ds => do
    let p ← ofDraft h d
    let ps ← ofDrafts h ds
    .ok ((k, p) :: ps)

end Parameter

/-- Says more about a fault of a graph; other faults stay as they are. -/
def Fault.explained (wrap : GraphFault → GraphFault) : Fault → Fault
  | .graph f => (Fault.graph (wrap f)).settled
  | f => f

namespace Node

def build (h : Objects) (type : Value) (parameters : List (Text × Draft))
    (flow : Flow) : Except Fault Node :=
  match Parameter.ofDrafts h parameters with
  | .ok ps => .ok ⟨type, ps, flow⟩
  | .error f => .error (f.explained (.inType (h.unfold type)))

def ofParts (h : Objects) (parts : Form.NodeParts) : Except Fault Node :=
  let entries (field : Option Value) : Entries Value := (field.bind h.entries?).getD []
  build h (.text parts.type) ((entries parts.parameters).map fun p => (p.1, .untagged p.2))
    (.entries (entries parts.flow))

def parse (h : Objects) : NodeSource → Except Fault Node
  | .assembled type parameters flow => build h type parameters flow
  | .record v =>
    match Form.checkNode h .node v with
    | .ok parts => ofParts h parts
    | .error vs => .error (.graph (.invalidNode vs))

def eachFrom {α : Type} (parse : α → Except Fault Node) :
    Nat → List α → Except Fault (List Node)
  | _, [] => .ok []
  | i, a :: as =>
    match parse a with
    | .error f => .error (f.explained (.atNode i))
    | .ok n => do
      let ns ← eachFrom parse (i + 1) as
      .ok (n :: ns)

/-- What a submission comes to as a list: the items of an array, the keys of an
object, the characters of a text. -/
def sources (h : Objects) : Submission → Except Fault (List NodeSource)
  | .list sources => .ok sources
  | .value v =>
    match v, h.find? v with
    | _, some (.array items) => .ok (items.map .record)
    | _, some (.object entries) => .ok (entries.keys.map fun k => .record (.text k))
    | .text s, _ => .ok (s.points.map fun c => .record (.text ⟨[c]⟩))
    | v, _ => .error (.notIterable (h.kind v))

def parseAll (h : Objects) (submitted : Submission) : Except Fault (List Node) := do
  eachFrom (parse h) 0 (← sources h submitted)

end Node

namespace Graph

def ofParts (h : Objects) (parts : Form.GraphParts) : Except Fault Graph := do
  let nodes ← Node.eachFrom (Node.ofParts h) 0 parts.nodes
  .ok ⟨nodes, parts.entry, parts.name⟩

def parse (h : Objects) (v : Value) : Except Fault Graph :=
  match Form.checkGraph h v with
  | .ok parts => ofParts h parts
  | .error vs => .error (.graph (.invalidDocument vs))

end Graph
end NodeWalk
