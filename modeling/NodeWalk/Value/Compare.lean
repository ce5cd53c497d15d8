import NodeWalk.Fault
import NodeWalk.Value.Reach

set_option autoImplicit false

/-!
# Comparison of values

Equality is defined between all values: numbers by value, texts by characters,
arrays item by item, objects by keys in any order. Inside a container one and
the same object counts as equal to itself. Order is defined between numbers,
between texts and between arrays, which compare at their first unequal items.
Two containers inside themselves may have no first difference; the number of
pairs of cells that the two reach bounds the search for one.
-/
namespace NodeWalk

namespace Comparison

def holds : Comparison → Ordering → Bool
  | .eq, o => o == .eq
  | .ne, o => o != .eq
  | .lt, o => o == .lt
  | .le, o => o != .gt
  | .gt, o => o == .gt
  | .ge, o => o != .lt

end Comparison

/-- Order of scalars: between numbers and between texts. Nothing is before or
after what is not a number. -/
def Scalar.ordered? (op : Comparison) (s t : Scalar) : Option Bool :=
  match s.number?, t.number? with
  | some x, some y => some (((x.compare? y).map op.holds).getD false)
  | _, _ =>
    match s, t with
    | .text s, .text t => some (op.holds (compare s t))
    | _, _ => none

namespace Objects

/-- Equality, unless more than `depth` levels would have to be compared. -/
def equalWithin (h : Objects) : Nat → Value → Value → Option Bool
  | 0, _, _ => none
  | depth + 1, v, w =>
    let sameItem (v w : Value) : Option Bool :=
      if v = w then some true else equalWithin h depth v w
    match v, w with
    | .scalar s, .scalar t => some (s.agree t)
    | .ref a, .ref b =>
      match h.cell a, h.cell b with
      | .array vs, .array ws =>
        if vs.length = ws.length then (vs.zip ws).allM fun p => sameItem p.1 p.2
        else some false
      | .object es, .object fs =>
        if es.length = fs.length then
          es.allM fun e =>
            match Entries.get? e.1 fs with
            | some w => sameItem e.2 w
            | none => some false
        else some false
      | _, _ => some false
    | _, _ => some false

/-- A pair of cells that is met again on the way down never shows a difference. -/
def maxDepth (h : Objects) (v w : Value) : Nat := (h.reach v).length * (h.reach w).length + 1

def equal (h : Objects) (v w : Value) : Except Fault Bool :=
  match h.equalWithin (h.maxDepth v w) v w with
  | some b => .ok b
  | none => .error .endlessComparison

/-- Equality of items: the same object is equal to itself. -/
def sameItem (h : Objects) (v w : Value) : Except Fault Bool :=
  if v = w then .ok true else h.equal v w

/-- The first unequal items, or what is left when one list ends. -/
def firstDifference (h : Objects) :
    List Value → List Value → Except Fault (List Value × List Value)
  | v :: vs, w :: ws => do
    if ← h.sameItem v w then firstDifference h vs ws else .ok (v :: vs, w :: ws)
  | vs, ws => .ok (vs, ws)

def orderedWithin (h : Objects) (op : Comparison) : Nat → Value → Value → Except Fault Bool
  | 0, _, _ => .error .endlessComparison
  | depth + 1, v, w =>
    match v, w with
    | .scalar s, .scalar t =>
      match s.ordered? op t with
      | some b => .ok b
      | none => .error (.unordered op s.kind t.kind)
    | v, w =>
      match h.items? v, h.items? w with
      | some vs, some ws => do
        match ← h.firstDifference vs ws with
        | (v :: _, w :: _) => orderedWithin h op depth v w
        | (vs, ws) => .ok (op.holds (compare vs.length ws.length))
      | _, _ => .error (.unordered op (h.kind v) (h.kind w))

def compares (h : Objects) (op : Comparison) (v w : Value) : Except Fault Bool :=
  match op with
  | .eq => h.equal v w
  | .ne => (h.equal v w).map (!·)
  | op => h.orderedWithin op (h.maxDepth v w) v w

end Objects
end NodeWalk
