import NodeWalk.Value.Objects
import NodeWalk.Value.Unfold
import NodeWalk.Fault

set_option autoImplicit false

/-!
# The record of a run

What was put out on which socket, in the order in which the keys first came. A
key has three parts, an entity, an index and a socket; keys are the same when
their parts are, and the key that came first is the one that stays. The views
regroup the entries and change nothing.
-/
namespace NodeWalk

structure Key where
  entity : Scalar
  index : Scalar
  socket : Scalar
deriving DecidableEq

namespace Key

def same (k l : Key) : Bool :=
  k.entity.same l.entity && k.index.same l.index && k.socket.same l.socket

@[simp] theorem same_refl (k : Key) : k.same k = true := by simp [same]

/-- Only scalars can be parts of a key; the first container is the fault. -/
def ofValues (h : Objects) (entity index socket : Value) : Except Fault Key := do
  .ok ⟨← part entity, ← part index, ← part socket⟩
where
  part : Value → Except Fault Scalar
    | .scalar s => .ok s
    | v => .error (.unhashable (h.kind v))

end Key

/-- The entity under which a run records the outputs of its nodes. -/
def nodeEntity : String := "$node"

/-- Finds by sameness instead of identity; used at each level of a snapshot. -/
abbrev Groups (α : Type) := List (Scalar × α)

namespace Groups

variable {α : Type}

def update (k : Scalar) (default : α) (f : α → α) : Groups α → Groups α
  | [] => [(k, f default)]
  | (l, a) :: gs => if l.same k then (l, f a) :: gs else (l, a) :: update k default f gs

end Groups

abbrev Snapshot := Groups (Groups (Groups Value))

structure Record where
  entries : List (Key × Value)
deriving DecidableEq, Inhabited

namespace Record

def empty : Record := ⟨[]⟩

def find? (k : Key) : List (Key × Value) → Option Value
  | [] => none
  | (l, v) :: es => if l.same k then some v else find? k es

def write (k : Key) (v : Value) : List (Key × Value) → List (Key × Value)
  | [] => [(k, v)]
  | (l, w) :: es => if l.same k then (l, v) :: es else (l, w) :: write k v es

def record (r : Record) (k : Key) (v : Value) : Record := ⟨write k v r.entries⟩

def has (r : Record) (k : Key) : Bool := (find? k r.entries).isSome

def read (r : Record) (k : Key) : Except Fault Value :=
  match find? k r.entries with
  | some v => .ok v
  | none => .error (Fault.unresolved k.index k.socket none).settled

def size (r : Record) : Nat := r.entries.length

/-- The sockets of one entity and index. A container is no part of any key. -/
def outputs (r : Record) (entity index : Value) : Groups Value :=
  r.entries.foldl
    (fun found e =>
      if equals e.1.entity entity && equals e.1.index index then
        found.update e.1.socket e.2 fun _ => e.2
      else found) []
where
  equals (s : Scalar) : Value → Bool
    | .scalar t => s.agree t
    | .ref _ => false

def snapshot (r : Record) : Snapshot :=
  r.entries.foldl
    (fun nested e =>
      nested.update e.1.entity [] fun indices =>
        indices.update e.1.index [] fun sockets =>
          sockets.update e.1.socket e.2 fun _ => e.2) []

def shownGroups? {α : Type} (shown : α → Option String) (gs : Groups α) : Option String := do
  let items ← gs.mapM fun g => do some ((← g.1.shown?) ++ ": " ++ (← shown g.2))
  some ("\x7b" ++ ", ".intercalate items ++ "\x7d")

def shown? (h : Objects) (r : Record) : Option String := do
  let text ← shownGroups? (shownGroups? (shownGroups? h.shown?)) r.snapshot
  some ("ExecutionState(" ++ text ++ ")")

end Record
end NodeWalk
