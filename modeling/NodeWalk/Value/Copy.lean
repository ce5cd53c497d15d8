import NodeWalk.Value.Reach

set_option autoImplicit false

/-!
# Deep copies

The cells reachable from a value are copied as a whole: each into a new cell,
with every reference among them following its cell. Containers that were shared
stay shared and a container inside itself stays inside itself, but the copy and
the cells it was made from have none in common.
-/
namespace NodeWalk.Objects

/-- Where a reference leads once the cells `from` have moved to `base` and on. -/
def moved (cells : List Addr) (base : Addr) : Value → Value
  | .scalar s => .scalar s
  | .ref a => .ref (((cells.idxOf? a).map (base + ·)).getD a)

def copy (v : Value) (h : Objects) : Value × Objects :=
  let cells := h.reach v
  let base := h.cells.size
  let copies := cells.map fun a => (h.cell a).map (moved cells base)
  (moved cells base v, { h with cells := h.cells ++ copies.toArray })

end NodeWalk.Objects
