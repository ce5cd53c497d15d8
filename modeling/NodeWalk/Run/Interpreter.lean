import NodeWalk.Graph.Parse
import NodeWalk.Run.Evaluate

set_option autoImplicit false

/-!
# Running a graph

A run starts at an entry, evaluates one node after the other, and halts at the
first node that names no successor. It fails at the first fault. A ceiling, if
there is one, bounds the number of evaluations; it is checked before the node
that is next. `walk` takes a number of turns and tells where it stopped, so a
graph that never halts is no obstacle to saying what it does.
-/
namespace NodeWalk

namespace Ceiling

def ofScalar (s : Scalar) : Except Fault (Option Scalar) :=
  match s.number? with
  | none => .error (.unordered .lt s.kind .int)
  | some n =>
    if n.compare? (.int 0) = some .lt then .error (Fault.negativeLimit s).settled
    else .ok (if s.isTrue then some s else none)

/-- The ceiling asked for, or the configured one for null. -/
def ofValue (h : Objects) (configured : Int) : Value → Except Fault (Option Scalar)
  | .null => ofScalar (.int configured)
  | .scalar s => ofScalar s
  | v => .error (.unordered .lt (h.kind v) .int)

def reached (limit : Scalar) (steps : Nat) : Bool :=
  match limit.number?.bind (Number.compare? (.int steps)) with
  | some .lt | none => false
  | some .eq | some .gt => true

end Ceiling

structure Interpreter where
  registry : Registry
  access : Access
  ceiling : Option Scalar

/-- Where a walk stopped, and after how many completed evaluations. -/
inductive Ending where
  | halted (steps : Nat)
  | failed (steps : Nat) (f : Fault)
  /-- All turns are taken and `current` is next. -/
  | unfinished (steps : Nat) (current : Value)

namespace Interpreter

/-- The position and the node that an index names; only an integer is an index. -/
def find? (nodes : List Node) : Value → Option (Nat × Node)
  | .int n => if 0 ≤ n then (nodes[n.toNat]?).map fun node => (n.toNat, node) else none
  | _ => none

def nodeAt (nodes : List Node) (index : Value) : StoreM (Nat × Node) := do
  match find? nodes index with
  | some p => return p
  | none => StoreM.fail (.invalidIndex ((← StoreM.objects).unfold index) nodes.length)

def checkCeiling (i : Interpreter) (steps : Nat) (current : Value) : StoreM Unit := do
  match i.ceiling with
  | none => pure ()
  | some limit =>
    if Ceiling.reached limit steps then
      StoreM.report ⟨.error, .interpreter,
        "Behavior graph exceeded " ++ (← StoreM.plain (.scalar limit)) ++ " steps at node "
          ++ (← StoreM.plain current), false⟩
      StoreM.fail (.stepLimit limit)

/-- Everything of a turn after `steps` evaluations up to the call of a behavior. -/
def approach (i : Interpreter) (nodes : List Node) (steps : Nat) (current : Value) :
    SessionM Node.Invocation := do
  SessionM.onStore (i.checkCeiling steps current)
  let (index, node) ← SessionM.onStore (nodeAt nodes current)
  let r := (← get).record
  SessionM.onStore (Node.prepare i.registry i.access r index node)

def turn (i : Interpreter) (nodes : List Node) (steps : Nat) (current : Value) :
    SessionM Node.Evaluation := do
  (← i.approach nodes steps current).conduct

def walk (i : Interpreter) (nodes : List Node) :
    (turns steps : Nat) → Value → Session → Ending × Session
  | _, steps, .null, s => (.halted steps, s)
  | 0, steps, current, s => (.unfinished steps current, s)
  | turns + 1, steps, current, s =>
    match (i.turn nodes steps current).run s with
    | (.ok e, s) => walk i nodes turns (steps + 1) e.output.next s
    | (.error f, s) => (.failed steps f, s)

/-- Clears the record, parses the nodes and checks the entry. -/
def start (entry : Value) (submitted : Submission) : SessionM (List Node) := do
  SessionM.onRecord fun _ => .empty
  SessionM.onStore do
    let nodes ← StoreM.ofExcept (Node.parseAll (← StoreM.objects) submitted)
    StoreM.report ⟨.info, .interpreter,
      "Running behavior graph from node " ++ (← StoreM.plain entry) ++ " ("
        ++ toString nodes.length ++ " nodes)", false⟩
    let _ ← nodeAt nodes entry
    return nodes

def haltNotice (steps : Nat) : Notice :=
  ⟨.info, .interpreter, "Behavior graph halted after " ++ toString steps ++ " steps", true⟩

def conclude : Ending × Session → Ending × Session
  | (.halted steps, s) =>
    (.halted steps, ((SessionM.onStore (StoreM.report (haltNotice steps))).run s).2)
  | stopped => stopped

def run (i : Interpreter) (turns : Nat) (entry : Value) (submitted : Submission)
    (s : Session) : Ending × Session :=
  match (start entry submitted).run s with
  | (.error f, s) => (.failed 0 f, s)
  | (.ok nodes, s) => conclude (i.walk nodes turns 0 entry s)

end Interpreter
end NodeWalk
