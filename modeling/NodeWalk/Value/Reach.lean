import NodeWalk.Value.Objects

set_option autoImplicit false

/-!
# Reachable cells

The cells that a value leads to, through any number of containers and each of
them once. How far a value reaches also bounds how deep a search in it can go
without meeting a container again.
-/
namespace NodeWalk.Objects

/-- The members of `as` that are neither in `seen` nor repeated. -/
def newcomers (seen : List Addr) (as : List Addr) : List Addr :=
  as.foldl (fun found a => if a ∈ seen ∨ a ∈ found then found else found ++ [a]) []

def refsOf (h : Objects) (a : Addr) : List Addr := (h.cell a).refs

/-- Adds what the frontier refers to until nothing new is found. Each round but
the last two finds a cell, so two rounds more than there are cells are enough. -/
def closure (h : Objects) : Nat → List Addr → List Addr → List Addr
  | 0, _, seen => seen
  | _, [], seen => seen
  | rounds + 1, frontier, seen =>
    let found := newcomers seen (frontier.flatMap h.refsOf)
    closure h rounds found (seen ++ found)

def reach (h : Objects) (v : Value) : List Addr := closure h (h.cells.size + 2) v.refs v.refs

end NodeWalk.Objects
