import NodeWalk.Value.Copy

set_option autoImplicit false

/-!
# Kept cells

Most of what a run does to its objects only adds cells behind those that are there.
Every old cell is then kept, and so are all marks that were handed out.
-/
namespace NodeWalk.Objects

variable {h g k : Objects}

def append (h : Objects) (cs : List Cell) : Objects := { h with cells := h.cells ++ cs.toArray }

@[simp] theorem size_append (h : Objects) (cs : List Cell) :
    (h.append cs).cells.size = h.cells.size + cs.length := by
  simp [append]

theorem cell_append_of_lt {a : Addr} (ha : a < h.cells.size) (cs : List Cell) :
    (h.append cs).cell a = h.cell a := by
  simp [append, cell, Array.getElem?_append_left ha]

theorem cell_append_add {i : Nat} {cs : List Cell} (hi : i < cs.length) :
    (h.append cs).cell (h.cells.size + i) = cs[i] := by
  simp [append, cell, hi]

theorem cell_append_self (h : Objects) (c : Cell) : (h.append [c]).cell h.cells.size = c := by
  have hlength : 0 < [c].length := Nat.one_pos
  exact cell_append_add hlength

theorem alloc_eq_append (c : Cell) (h : Objects) :
    h.alloc c = (h.cells.size, h.append [c]) := by
  simp [alloc, append]

theorem newObject_eq (es : Entries Value) (h : Objects) :
    h.newObject es = (.ref h.cells.size, h.append [.object es]) := by
  simp [newObject, alloc_eq_append]

theorem newArray_eq (items : List Value) (h : Objects) :
    h.newArray items = (.ref h.cells.size, h.append [.array items]) := by
  simp [newArray, alloc_eq_append]

theorem entries?_newObject (es : Entries Value) (h : Objects) :
    (h.newObject es).2.entries? (h.newObject es).1 = some es := by
  simp only [newObject_eq, entries?, find?, cell_append_self]

theorem items?_newArray (items : List Value) (h : Objects) :
    (h.newArray items).2.items? (h.newArray items).1 = some items := by
  simp only [newArray_eq, items?, find?, cell_append_self]

structure Kept (h g : Objects) : Prop where
  size : h.cells.size ≤ g.cells.size
  cell : ∀ a, a < h.cells.size → g.cell a = h.cell a
  mark : h.nextMark ≤ g.nextMark

theorem Kept.refl (h : Objects) : h.Kept h := ⟨Nat.le_refl _, fun _ _ => rfl, Nat.le_refl _⟩

theorem Kept.trans (hg : h.Kept g) (hk : g.Kept k) : h.Kept k where
  size := Nat.le_trans hg.size hk.size
  cell a ha := (hk.cell a (Nat.lt_of_lt_of_le ha hg.size)).trans (hg.cell a ha)
  mark := Nat.le_trans hg.mark hk.mark

theorem Kept.find?_eq {v : Value} (hk : h.Kept g) (hv : ∀ a, v = .ref a → a < h.cells.size) :
    g.find? v = h.find? v := by
  cases v with
  | scalar s => rfl
  | ref a => rw [find?, find?, hk.cell a (hv a rfl)]

theorem kept_append (h : Objects) (cs : List Cell) : h.Kept (h.append cs) where
  size := by simp
  cell _ ha := cell_append_of_lt ha cs
  mark := Nat.le_refl _

theorem kept_newObject (es : Entries Value) (h : Objects) : h.Kept (h.newObject es).2 := by
  rw [newObject_eq]
  exact kept_append h _

theorem kept_newArray (items : List Value) (h : Objects) : h.Kept (h.newArray items).2 := by
  rw [newArray_eq]
  exact kept_append h _

/-- An object is found again wherever what it was made in is kept. -/
theorem Kept.entries?_newObject {es : Entries Value} (hk : (h.newObject es).2.Kept g) :
    g.entries? (h.newObject es).1 = some es := by
  have hinside : ∀ a, (h.newObject es).1 = .ref a → a < (h.newObject es).2.cells.size := by
    rw [newObject_eq, size_append]
    rintro a ⟨⟩
    exact Nat.lt_succ_self _
  rw [Objects.entries?, hk.find?_eq hinside]
  exact Objects.entries?_newObject es h

theorem Kept.items?_newArray {items : List Value} (hk : (h.newArray items).2.Kept g) :
    g.items? (h.newArray items).1 = some items := by
  have hinside : ∀ a, (h.newArray items).1 = .ref a → a < (h.newArray items).2.cells.size := by
    rw [newArray_eq, size_append]
    rintro a ⟨⟩
    exact Nat.lt_succ_self _
  rw [Objects.items?, hk.find?_eq hinside]
  exact Objects.items?_newArray items h

theorem kept_copy (v : Value) (h : Objects) : h.Kept (h.copy v).2 := kept_append h _

end NodeWalk.Objects
