import NodeWalk.Run.Registry
import NodeWalk.Run.Resolve

set_option autoImplicit false

/-!
# Evaluating a node

One evaluation finds the behavior, resolves the parameters, calls the behavior
with control data of its own, and records what it puts out. Nothing is recorded
unless the behavior answered with an output.
-/
namespace NodeWalk

/-- What a run reads and writes: the store and the record of the run. -/
structure Session where
  store : Store
  record : Record
deriving Inhabited

abbrev SessionM := ExceptT Fault (StateM Session)

namespace SessionM

/-- Runs an action on the store, which the record has no part in. -/
def onStore {α : Type} (m : StoreM α) : SessionM α := fun ⟨store, record⟩ =>
  let (result, store) := m.run store
  (result, ⟨store, record⟩)

def onRecord (f : Record → Record) : SessionM Unit :=
  modify fun s => { s with record := f s.record }

end SessionM

/-- The entries that control data come to: those of an object, or those listed
as pairs. -/
def entriesOf (h : Objects) (v : Value) : Except Fault (Entries Value) :=
  match v, h.find? v with
  | _, some (.object entries) => .ok entries
  | _, some (.array items) => do .ok (Entries.ofPairs (← pairsFrom 0 items))
  | .text s, _ => if s = "" then .ok [] else .error (.entryLength 0 1)
  | v, _ => .error (.notIterable (h.kind v))
where
  /-- The two parts of an item: items of an array, characters or keys. -/
  parts (i : Nat) (v : Value) : Except Fault (List Value) :=
    match v, h.find? v with
    | _, some (.array items) => .ok items
    | _, some (.object entries) => .ok (entries.keys.map .text)
    | .text s, _ => .ok (s.points.map fun c => .text ⟨[c]⟩)
    | _, _ => .error (.entryNotSequence i)
  pairsFrom : Nat → List Value → Except Fault (List (Text × Value))
    | _, [] => .ok []
    | i, v :: vs => do
      match ← parts i v with
      | [key, w] =>
        match key with
        | .text k => do .ok ((k, w) :: (← pairsFrom (i + 1) vs))
        | .ref _ => .error (.unhashable (h.kind key))
        | .scalar s => do .ok ((s.shown?.getD "", w) :: (← pairsFrom (i + 1) vs))
      | ws => .error (.entryLength i ws.length)

namespace Node

/-- A place in a run: the node at this position of the graph. -/
structure Visit where
  index : Nat
  type : Text

namespace Visit

def label (v : Visit) : Text := "Node " ++ toString v.index ++ " (" ++ v.type ++ ")"

def report (v : Visit) (level : Level) (text : Text) : StoreM Unit :=
  StoreM.report ⟨level, .interpreter, v.label ++ text, false⟩

def behavior (registry : Registry) (v : Visit) : StoreM Registered :=
  match NodeType.split v.type >>= fun p => registry.lookup p.1 p.2 with
  | .ok b => return b
  | .error _ => do
    StoreM.report ⟨.error, .interpreter,
      "Unknown node type " ++ v.type ++ " at node " ++ toString v.index, false⟩
    StoreM.fail (.unknownType v.type (some v.index))

def reportMissing (v : Visit) (f : Fault) : StoreM Unit :=
  match f with
  | .unresolved .. => v.report .error (": " ++ f.message)
  | _ => pure ()

def parameters (v : Visit) (n : Node) (r : Record) : StoreM (Entries Value) :=
  tryCatch (resolveEach (Parameter.resolve r) n.parameters) fun f => do
    v.reportMissing f
    throw f

def flowEntries : Flow → StoreM (Entries Value)
  | .entries entries => return entries
  | .value v => do StoreM.ofExcept (entriesOf (← StoreM.objects) v)

/-- What the behavior is given: a new object of the parameters, and a copy of the
control data. -/
def call (n : Node) (access : Access) (parameters : Entries Value) : StoreM Call := do
  let parameters ← StoreM.extend (Objects.newObject parameters)
  let entries ← flowEntries n.flow
  let flow ← StoreM.extend fun h =>
    let (flow, h) := h.newObject entries
    h.copy flow
  return ⟨parameters, flow, access⟩

/-- Reports whatever goes wrong in an action as a failure of the node. -/
def reporting {α : Type} (v : Visit) (m : StoreM α) : StoreM α :=
  tryCatch m fun f => do
    v.report .error (" failed: " ++ f.message)
    throw f

def output (v : Visit) (reply : Reply) : StoreM Output := do
  let h ← StoreM.objects
  match reply.accept h with
  | some output => return output
  | none =>
    v.report .error (" returned " ++ (reply.kind h).name)
    StoreM.fail (.invalidOutput v.type (reply.kind h))

end Visit

structure Invocation where
  visit : Visit
  behavior : Registered
  call : Call

structure Evaluation where
  index : Nat
  output : Output

/-- Everything of an evaluation that comes before the behavior is called. -/
def prepare (registry : Registry) (access : Access) (r : Record) (index : Nat) (n : Node) :
    StoreM Invocation := do
  let type ← StoreM.ofExcept (NodeType.ofValue (← StoreM.objects) n.type)
  let v : Visit := ⟨index, type⟩
  let b ← v.behavior registry
  let parameters ← v.parameters n r
  return ⟨v, b, ← v.reporting (Visit.call n access parameters)⟩

def recorded (index : Nat) (result : Entries Value) (r : Record) : Record :=
  result.foldl (fun r e => r.record ⟨.text nodeEntity, .int index, .text e.1⟩ e.2) r

namespace Invocation

def answer (i : Invocation) : StoreM Output := do
  i.visit.output (← i.visit.reporting (i.behavior.behave i.call))

/-- Calls the behavior, records what it puts out and reports the successor. -/
def conduct (i : Invocation) : SessionM Evaluation := do
  let output ← SessionM.onStore i.answer
  SessionM.onRecord (recorded i.visit.index output.result)
  SessionM.onStore do
    i.visit.report .debug (" -> " ++ (← StoreM.plain output.next))
  return ⟨i.visit.index, output⟩

end Invocation
end Node
end NodeWalk
