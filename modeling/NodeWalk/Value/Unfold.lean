import NodeWalk.Value.Reach
import NodeWalk.Value.Unfolding

set_option autoImplicit false

/-!
# Unfolding stored values

`unfold` writes a stored value out as a tree. On the way down it carries the
enclosing containers, the nearest first; a container among them becomes a way
back. The enclosing containers are different cells, so the number of cells that
the value reaches bounds the depth.
-/
namespace NodeWalk.Objects

def container (h : Objects) (a : Addr) : Container :=
  match h.cell a with
  | .object _ => .object
  | .array _ => .array

def unfoldIn (h : Objects) : Nat → List Addr → Value → Unfolding
  | _, _, .scalar s => .scalar s
  | 0, outer, .ref a => .back (h.container a) (outer.length + 1)
  | depth + 1, outer, .ref a =>
    match outer.idxOf? a with
    | some i => .back (h.container a) (i + 1)
    | none =>
      match h.cell a with
      | .array items => .array (items.map (unfoldIn h depth (a :: outer)))
      | .object entries =>
        .object (entries.map fun e => (e.1, unfoldIn h depth (a :: outer) e.2))

def unfold (h : Objects) (v : Value) : Unfolding := h.unfoldIn ((h.reach v).length + 1) [] v

/-- The text of a value as it stands inside a container. -/
def shown? (h : Objects) (v : Value) : Option String := (h.unfold v).shown?

/-- The text of a value where a text stands for itself. -/
def plain? (h : Objects) (v : Value) : Option Text := (h.unfold v).plain?

end NodeWalk.Objects
