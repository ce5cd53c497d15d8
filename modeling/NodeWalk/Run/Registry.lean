import NodeWalk.Graph.Node
import NodeWalk.Run.Behavior

set_option autoImplicit false

/-!
# The registry of behaviors

Behaviors by node type. Every registered type has a category and a name, so it
can be split and looked up by the two; a registration that fails changes
nothing. Types are listed in the order of their characters.
-/
namespace NodeWalk

/-- A behavior with the label under which it is shown and its documentation. -/
structure Registered where
  label : String
  doc : Option String
  behave : Behavior

inductive Candidate where
  | behavior (b : Registered)
  /-- A plain function, or anything else that can be called. -/
  | function (name : String) (doc : Option String) (behave : Behavior)
  | unusable

namespace Candidate

def registered? : Candidate → Option Registered
  | .behavior b => some b
  | .function name doc behave => some ⟨"FunctionNode(" ++ Text.quoted name ++ ")", doc, behave⟩
  | .unusable => none

end Candidate

/-- What a decorator may stand on: a class of behaviors, of which one is made, or a candidate. -/
inductive Target where
  | behaviorClass (made : Except Fault Registered)
  | candidate (c : Candidate)

def Target.offered : Target → Except Fault Candidate
  | .behaviorClass made => made.map .behavior
  | .candidate c => .ok c

structure Registry where
  entries : Entries Registered

namespace Registry

def empty : Registry := ⟨[]⟩

def get? (r : Registry) (type : Text) : Option Registered := Entries.get? type r.entries

def contains (r : Registry) (type : Text) : Bool := (r.get? type).isSome

def size (r : Registry) : Nat := r.entries.length

def register (r : Registry) (type : Text) (candidate : Candidate) (replace : Bool) :
    Except Fault (Registered × Registry) := do
  let _ ← NodeType.split type
  if r.contains type && !replace then .error (.alreadyRegistered type)
  else match candidate.registered? with
    | none => .error (.notBehavior type)
    | some b => .ok (b, ⟨Entries.set type b r.entries⟩)

variable {r r' : Registry} {type : Text} {candidate : Candidate} {replace : Bool}
  {b : Registered}

theorem register_ok (h : r.register type candidate replace = .ok (b, r')) :
    (∃ p, NodeType.split type = .ok p) ∧ candidate.registered? = some b ∧
      r' = ⟨Entries.set type b r.entries⟩ := by
  unfold register at h
  cases hs : NodeType.split type with
  | error f => simp [hs, bind, Except.bind] at h
  | ok p =>
    simp only [hs, bind, Except.bind] at h
    split at h
    · cases h
    · split at h
      · cases h
      · rename_i hb
        cases h
        exact ⟨⟨p, rfl⟩, hb, rfl⟩

/-- Registers what a decorator stands on, which is itself left as it is. -/
def decorate (r : Registry) (type : Text) (target : Target) (replace : Bool) :
    Except Fault (Registered × Registry) := do
  r.register type (← target.offered) replace

def unregister (r : Registry) (type : Text) : Option Registered × Registry :=
  (r.get? type, ⟨Entries.erase type r.entries⟩)

def lookup (r : Registry) (category name : Text) : Except Fault Registered :=
  let type := category ++ "." ++ name
  match r.get? type with
  | some b => .ok b
  | none => .error (.unknownType type none)

def nodeTypes (r : Registry) : List Text :=
  (Entries.keys r.entries).mergeSort fun s t => (compare s t).isLE

def nodeTypesOf (r : Registry) (category : Text) : List Text :=
  r.nodeTypes.filter fun type => (NodeType.parts type).1 = category

/-- The types of a category, each of them split to see whether it is one. -/
def typesIn (r : Registry) (category : Text) : Except Fault (List Text) :=
  among r.nodeTypes
where
  among : List Text → Except Fault (List Text)
    | [] => .ok []
    | type :: types => do
      let p ← NodeType.split type
      let found ← among types
      .ok (if p.1 = category then type :: found else found)

end Registry
end NodeWalk
