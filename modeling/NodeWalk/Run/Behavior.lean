import NodeWalk.Document

set_option autoImplicit false

/-!
# Behaviors

A behavior is given an object of parameters and an object of control data, both
of its own, and the document as far as it is bound. It answers with an output or
with a value that `accept` may take for one.
-/
namespace NodeWalk

structure Access where
  canGet : Bool
  canSet : Bool
deriving DecidableEq

def Access.full : Access := ⟨true, true⟩

structure Call where
  parameters : Value
  flow : Value
  access : Access

inductive Reply where
  | plain (v : Value)
  | output (result next : Value)

abbrev Behavior := Call → StoreM Reply

/-- What is recorded of an evaluation, and the node named as the next; null ends
the run. -/
structure Output where
  result : Entries Value
  next : Value

namespace Reply

def kind (h : Objects) : Reply → Kind
  | .plain v => h.kind v
  | .output _ _ => .output

/-- The output that a reply is: a finished output whose result is an object, or
an object with such a result that may name the next node under either name. -/
def accept (h : Objects) : Reply → Option Output
  | .output result next => do some ⟨← h.entries? result, next⟩
  | .plain v => do
    let fields ← h.entries? v
    let result ← h.entries? (← Entries.get? "result" fields)
    let next := (Entries.get? "nextFlow" fields).getD .null
    if next = .null then some ⟨result, (Entries.get? "next_flow" fields).getD .null⟩
    else some ⟨result, next⟩

end Reply

namespace Call

def entry (v : Value) (key : Text) : StoreM Value := do
  let h ← StoreM.objects
  match h.entries? v with
  | some es => return (Entries.get? key es).getD .null
  | none => StoreM.fail (.lacks (h.kind v) "get")

def optional (c : Call) (key : Text) : StoreM Value := entry c.parameters key

def required (c : Call) (key : Text) : StoreM Value := do
  let h ← StoreM.objects
  match h.entries? c.parameters with
  | some es =>
    match Entries.get? key es with
    | some v => return v
    | none => StoreM.fail (.missingKey key)
  | none => StoreM.fail (.lacks (h.kind c.parameters) "get")

/-- The successor that the control data name under a key, null for none. -/
def successor (c : Call) (key : Text) : StoreM Value := entry c.flow key

def getDocument (c : Call) (path : Value) : StoreM Value := do
  if c.access.canGet then
    let s ← get
    StoreM.ofExcept (Document.get s.objects s.root path)
  else StoreM.fail (.unbound .get)

def setDocument (c : Call) (path v : Value) : StoreM Unit :=
  if c.access.canSet then Document.set path v else StoreM.fail (.unbound .set)

def finish (result : Entries Value) (next : Value) : StoreM Reply := do
  return .output (← StoreM.extend (Objects.newObject result)) next

end Call
end NodeWalk
