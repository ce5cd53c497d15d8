import NodeWalk.Entries
import NodeWalk.Json.Basic
import NodeWalk.Value.Scalar

set_option autoImplicit false

/-!
# Stored objects

Arrays and objects live in numbered cells; a value is a scalar or the number of
a cell, so one container can stand in many places and even inside itself. A cell
is written in place and never moves. The store also hands out marks for results
that are not a number, each a new one.
-/
namespace NodeWalk

abbrev Addr := Nat

inductive Value where
  | scalar (s : Scalar)
  | ref (a : Addr)
deriving DecidableEq, Inhabited

namespace Value

@[match_pattern] abbrev null : Value := .scalar .null

@[match_pattern] abbrev bool (b : Bool) : Value := .scalar (.bool b)

@[match_pattern] abbrev int (n : Int) : Value := .scalar (.int n)

@[match_pattern] abbrev float (x : Binary64) : Value := .scalar (.float x)

@[match_pattern] abbrev text (s : Text) : Value := .scalar (.text s)

def refs : Value → List Addr
  | .scalar _ => []
  | .ref a => [a]

end Value

inductive Cell where
  | array (items : List Value)
  | object (entries : Entries Value)
deriving DecidableEq, Inhabited

namespace Cell

def kind : Cell → Kind
  | .array _ => .array
  | .object _ => .object

def values : Cell → List Value
  | .array items => items
  | .object entries => entries.map (·.2)

def refs (c : Cell) : List Addr := c.values.flatMap Value.refs

def map (f : Value → Value) : Cell → Cell
  | .array items => .array (items.map f)
  | .object entries => .object (entries.map fun e => (e.1, f e.2))

def isEmpty (c : Cell) : Bool := c.values.isEmpty

end Cell

structure Objects where
  cells : Array Cell
  nextMark : Nat
deriving Inhabited

namespace Objects

/-- Mark 0 belongs to the number that documents write without digits. -/
def empty : Objects := ⟨#[], 1⟩

def cell (h : Objects) (a : Addr) : Cell := h.cells.getD a (.array [])

def alloc (c : Cell) (h : Objects) : Addr × Objects :=
  (h.cells.size, { h with cells := h.cells.push c })

def put (a : Addr) (c : Cell) (h : Objects) : Objects :=
  { h with cells := h.cells.setIfInBounds a c }

def freshMark (h : Objects) : Nat × Objects := (h.nextMark, { h with nextMark := h.nextMark + 1 })

def newArray (items : List Value) (h : Objects) : Value × Objects :=
  let (a, h) := h.alloc (.array items)
  (.ref a, h)

def newObject (entries : Entries Value) (h : Objects) : Value × Objects :=
  let (a, h) := h.alloc (.object entries)
  (.ref a, h)

def find? (h : Objects) : Value → Option Cell
  | .scalar _ => none
  | .ref a => some (h.cell a)

def items? (h : Objects) (v : Value) : Option (List Value) :=
  match h.find? v with
  | some (.array items) => some items
  | _ => none

def entries? (h : Objects) (v : Value) : Option (Entries Value) :=
  match h.find? v with
  | some (.object entries) => some entries
  | _ => none

def kind (h : Objects) : Value → Kind
  | .scalar s => s.kind
  | .ref a => (h.cell a).kind

/-- Everything is true except null, false, zeros, and what is empty. -/
def isTrue (h : Objects) : Value → Bool
  | .scalar s => s.isTrue
  | .ref a => !(h.cell a).isEmpty

@[simp] theorem cell_alloc_self (c : Cell) (h : Objects) :
    (h.alloc c).2.cell h.cells.size = c := by
  simp [alloc, cell]

theorem cell_alloc_of_lt {a : Addr} {h : Objects} (ha : a < h.cells.size) (c : Cell) :
    (h.alloc c).2.cell a = h.cell a := by
  simp [alloc, cell, Array.getElem?_push, Nat.ne_of_lt ha]

@[simp] theorem size_alloc (c : Cell) (h : Objects) :
    (h.alloc c).2.cells.size = h.cells.size + 1 := by
  simp [alloc]

theorem cell_put_self {a : Addr} {h : Objects} (ha : a < h.cells.size) (c : Cell) :
    (h.put a c).cell a = c := by
  simp [put, cell, ha]

theorem cell_put_of_ne {a b : Addr} (hab : a ≠ b) (c : Cell) (h : Objects) :
    (h.put a c).cell b = h.cell b := by
  simp [put, cell, Array.getElem?_setIfInBounds_ne hab]

@[simp] theorem size_put (a : Addr) (c : Cell) (h : Objects) :
    (h.put a c).cells.size = h.cells.size := by
  simp [put]

mutual

/-- Stores a tree, every container in a cell of its own, the inner ones first. -/
def load : Json → Objects → Value × Objects
  | .scalar s, h => (.scalar s, h)
  | .array items, h =>
    let (vs, h) := loadItems items h
    h.newArray vs
  | .object entries, h =>
    let (es, h) := loadMembers entries h
    h.newObject es

def loadItems : List Json → Objects → List Value × Objects
  | [], h => ([], h)
  | j :: js, h =>
    let (v, h) := load j h
    let (vs, h) := loadItems js h
    (v :: vs, h)

def loadMembers : List (Text × Json) → Objects → Entries Value × Objects
  | [], h => ([], h)
  | (k, j) :: es, h =>
    let (v, h) := load j h
    let (vs, h) := loadMembers es h
    ((k, v) :: vs, h)

end

end Objects
end NodeWalk
