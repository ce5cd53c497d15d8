import Mathlib.Data.Set.Basic
import NodeWalk.Fault
import NodeWalk.Value.Objects

set_option autoImplicit false

/-!
# Renaming

Nothing a graph computes depends on the numbers of cells, or on which numbers serve
as marks. A renaming gives new numbers to both; a scope says which of them a value
may carry. What is shown of a value or a fault has no marks, so it is compared by
`unmarked`.
-/
namespace NodeWalk

structure Renaming where
  cell : Nat → Nat
  mark : Nat → Nat

def Renaming.same : Renaming := ⟨id, id⟩

/-- Cells and marks that may be carried. -/
@[ext]
structure Scope where
  cells : Set Nat
  marks : Set Nat

namespace Scope

instance : LE Scope := ⟨fun s t => s.cells ⊆ t.cells ∧ s.marks ⊆ t.marks⟩

theorem le_refl (s : Scope) : s ≤ s := ⟨fun _ h => h, fun _ h => h⟩

theorem le_trans {s t u : Scope} (h : s ≤ t) (h' : t ≤ u) : s ≤ u :=
  ⟨fun _ ha => h'.1 (h.1 ha), fun _ hm => h'.2 (h.2 hm)⟩

end Scope

structure Renaming.Agrees (ρ τ : Renaming) (s : Scope) : Prop where
  cell : ∀ a ∈ s.cells, ρ.cell a = τ.cell a
  mark : ∀ m ∈ s.marks, ρ.mark m = τ.mark m

namespace Renaming.Agrees

variable {ρ σ τ : Renaming} {s t : Scope}

theorem refl (ρ : Renaming) (s : Scope) : ρ.Agrees ρ s := ⟨fun _ _ => rfl, fun _ _ => rfl⟩

theorem symm (h : ρ.Agrees τ s) : τ.Agrees ρ s :=
  ⟨fun a ha => (h.cell a ha).symm, fun m hm => (h.mark m hm).symm⟩

theorem trans (h : ρ.Agrees σ s) (h' : σ.Agrees τ s) : ρ.Agrees τ s :=
  ⟨fun a ha => (h.cell a ha).trans (h'.cell a ha), fun m hm => (h.mark m hm).trans (h'.mark m hm)⟩

theorem of_le (h : ρ.Agrees τ t) (hs : s ≤ t) : ρ.Agrees τ s :=
  ⟨fun a ha => h.cell a (hs.1 ha), fun m hm => h.mark m (hs.2 hm)⟩

end Renaming.Agrees

/-- What carries cells and marks, and can be renamed. -/
class Carries (α : Type) where
  rename : Renaming → α → α
  Within : Scope → α → Prop
  mono : ∀ {s t : Scope} {a : α}, s ≤ t → Within s a → Within t a
  congr : ∀ {s : Scope} {ρ τ : Renaming} {a : α}, ρ.Agrees τ s → Within s a →
    rename ρ a = rename τ a
  same : ∀ a : α, rename .same a = a

export Carries (rename Within)

section Plain

/-- Data that carries nothing. -/
abbrev Carries.nothing (α : Type) : Carries α where
  rename _ a := a
  Within _ _ := True
  mono _ _ := trivial
  congr _ _ := rfl
  same _ := rfl

instance : Carries Unit := .nothing Unit

instance : Carries Text := .nothing Text

instance : Carries String := .nothing String

instance : Carries Nat := .nothing Nat

instance : Carries Bool := .nothing Bool

end Plain

section Containers

variable {α κ : Type} [Carries α]

instance : Carries (List α) where
  rename ρ as := as.map (rename ρ)
  Within s as := ∀ a ∈ as, Within s a
  mono hs h a ha := Carries.mono hs (h a ha)
  congr hs h := List.map_congr_left fun a ha => Carries.congr hs (h a ha)
  same as := by
    induction as with
    | nil => rfl
    | cons a as ih => rw [List.map_cons, Carries.same, ih]

instance : Carries (κ × α) where
  rename ρ p := (p.1, rename ρ p.2)
  Within s p := Within s p.2
  mono hs h := Carries.mono hs h
  congr hs h := by rw [Carries.congr hs h]
  same p := by rw [Carries.same]

instance : Carries (Option α) where
  rename ρ o := o.map (rename ρ)
  Within s o := ∀ a ∈ o, Within s a
  mono hs h a ha := Carries.mono hs (h a ha)
  congr {s ρ τ o} hs h := by
    cases o with
    | none => rfl
    | some a => exact congrArg some (Carries.congr hs (h a rfl))
  same o := by cases o <;> simp [Carries.same]

theorem rename_list (ρ : Renaming) (as : List α) : rename ρ as = as.map (rename ρ) := rfl

theorem rename_pairs (ρ : Renaming) (ps : List (κ × α)) :
    rename ρ ps = ps.map fun p => (p.1, rename ρ p.2) := rfl

@[simp] theorem rename_nil (ρ : Renaming) : rename ρ ([] : List α) = [] := rfl

@[simp] theorem rename_cons (ρ : Renaming) (a : α) (as : List α) :
    rename ρ (a :: as) = rename ρ a :: rename ρ as := rfl

@[simp] theorem rename_append (ρ : Renaming) (as bs : List α) :
    rename ρ (as ++ bs) = rename ρ as ++ rename ρ bs := List.map_append

@[simp] theorem rename_pair (ρ : Renaming) (k : κ) (a : α) :
    rename ρ (k, a) = (k, rename ρ a) := rfl

@[simp] theorem rename_some (ρ : Renaming) (a : α) : rename ρ (some a) = some (rename ρ a) := rfl

@[simp] theorem length_rename (ρ : Renaming) (as : List α) :
    (rename ρ as).length = as.length := List.length_map _

@[simp] theorem within_nil (s : Scope) : Within s ([] : List α) := fun _ h => nomatch h

@[simp] theorem within_cons {s : Scope} {a : α} {as : List α} :
    Within s (a :: as) ↔ Within s a ∧ Within s as := List.forall_mem_cons

@[simp] theorem within_pair {s : Scope} {k : κ} {a : α} : Within s (k, a) ↔ Within s a := Iff.rfl

@[simp] theorem within_append {s : Scope} {as bs : List α} :
    Within s (as ++ bs) ↔ Within s as ∧ Within s bs := List.forall_mem_append

@[simp] theorem within_none (s : Scope) : Within s (none : Option α) := fun _ h => nomatch h

@[simp] theorem within_some {s : Scope} {a : α} : Within s (some a) ↔ Within s a :=
  ⟨fun h => h a rfl, fun h b hb => by cases hb; exact h⟩

end Containers

def Scalar.mapMark (f : Nat → Nat) : Scalar → Scalar
  | .float x => .float { x with mark := f x.mark }
  | s => s

def Scalar.Marked (s : Scalar) (m : Nat) : Prop := ∃ x, s = .float x ∧ x.mark = m

instance : Carries Scalar where
  rename ρ s := s.mapMark ρ.mark
  Within s a := ∀ m, a.Marked m → m ∈ s.marks
  mono hs h m hm := hs.2 (h m hm)
  congr {s ρ τ a} hs h := by
    cases a with
    | float x => simp only [Scalar.mapMark, hs.mark x.mark (h x.mark ⟨x, rfl, rfl⟩)]
    | _ => rfl
  same a := by cases a <;> rfl

@[simp] theorem rename_float (ρ : Renaming) (x : Binary64) :
    rename ρ (Scalar.float x) = .float { x with mark := ρ.mark x.mark } := rfl

theorem rename_scalar_of_not_float {a : Scalar} (h : ∀ x, a ≠ .float x) (ρ : Renaming) :
    rename ρ a = a := by
  cases a with
  | float x => exact absurd rfl (h x)
  | _ => rfl

instance : Carries Value where
  rename ρ
    | .scalar a => .scalar (rename ρ a)
    | .ref a => .ref (ρ.cell a)
  Within s
    | .scalar a => Within s a
    | .ref a => a ∈ s.cells
  mono {s t v} hs h := by
    cases v with
    | scalar a => exact Carries.mono (α := Scalar) hs h
    | ref a => exact hs.1 h
  congr {s ρ τ v} hs h := by
    cases v with
    | scalar a => exact congrArg Value.scalar (Carries.congr (α := Scalar) hs h)
    | ref a => exact congrArg Value.ref (hs.cell a h)
  same v := by
    cases v with
    | scalar a => exact congrArg Value.scalar (Carries.same a)
    | ref a => rfl

@[simp] theorem rename_scalar (ρ : Renaming) (a : Scalar) :
    rename ρ (Value.scalar a) = .scalar (rename ρ a) := rfl

@[simp] theorem rename_ref (ρ : Renaming) (a : Addr) :
    rename ρ (Value.ref a) = .ref (ρ.cell a) := rfl

@[simp] theorem within_scalar {s : Scope} {a : Scalar} :
    Within s (Value.scalar a) ↔ Within s a := Iff.rfl

@[simp] theorem within_ref {s : Scope} {a : Addr} : Within s (Value.ref a) ↔ a ∈ s.cells := Iff.rfl

theorem within_of_not_float {s : Scope} {a : Scalar} (h : ∀ x, a ≠ .float x) : Within s a := by
  rintro m ⟨x, hx, -⟩
  exact absurd hx (h x)

@[simp] theorem within_null (s : Scope) : Within s Value.null := within_of_not_float (by simp)

@[simp] theorem within_bool (s : Scope) (b : Bool) : Within s (Value.bool b) :=
  within_of_not_float (by simp)

@[simp] theorem within_int (s : Scope) (n : Int) : Within s (Value.int n) :=
  within_of_not_float (by simp)

@[simp] theorem within_text (s : Scope) (x : Text) : Within s (Value.text x) :=
  within_of_not_float (by simp)

theorem refs_rename (ρ : Renaming) (v : Value) : (rename ρ v).refs = v.refs.map ρ.cell := by
  cases v <;> rfl

theorem Within.refs {s : Scope} {v : Value} (h : Within s v) : ∀ a ∈ v.refs, a ∈ s.cells := by
  cases v with
  | scalar a => exact fun a ha => nomatch ha
  | ref a => exact fun b hb => List.mem_singleton.1 hb ▸ h

instance : Carries Cell where
  rename ρ c := c.map (rename ρ)
  Within s c := Within s c.values
  mono hs h := Carries.mono (α := List Value) hs h
  congr {s ρ τ c} hs h := by
    cases c with
    | array items => exact congrArg Cell.array (Carries.congr (α := List Value) hs h)
    | object entries =>
      refine congrArg Cell.object (List.map_congr_left fun e he => ?_)
      rw [Carries.congr hs (h e.2 (List.mem_map_of_mem he))]
  same c := by
    cases c with
    | array items => exact congrArg Cell.array (Carries.same items)
    | object entries => exact congrArg Cell.object (Carries.same entries)

@[simp] theorem rename_array (ρ : Renaming) (items : List Value) :
    rename ρ (Cell.array items) = .array (rename ρ items) := rfl

@[simp] theorem rename_object (ρ : Renaming) (entries : Entries Value) :
    rename ρ (Cell.object entries) = .object (rename ρ entries) := rfl

@[simp] theorem within_array {s : Scope} {items : List Value} :
    Within s (Cell.array items) ↔ Within s items := Iff.rfl

@[simp] theorem within_object {s : Scope} {entries : Entries Value} :
    Within s (Cell.object entries) ↔ Within s entries := List.forall_mem_map

theorem values_rename (ρ : Renaming) (c : Cell) :
    (rename ρ c).values = c.values.map (rename ρ) := by
  cases c with
  | array items => rfl
  | object entries =>
    simp [Cell.values, rename_pairs, Function.comp_def]

theorem refs_rename_cell (ρ : Renaming) (c : Cell) :
    (rename ρ c).refs = c.refs.map ρ.cell := by
  unfold Cell.refs
  rw [values_rename]
  induction c.values with
  | nil => rfl
  | cons v vs ih =>
    rw [List.map_cons, List.flatMap_cons, List.flatMap_cons, List.map_append, ih, refs_rename]

theorem rename_rename_cell {ρ σ ρ' σ' : Renaming} {c : Cell}
    (h : ∀ v ∈ c.values, rename ρ (rename σ v) = rename ρ' (rename σ' v)) :
    rename ρ (rename σ c) = rename ρ' (rename σ' c) := by
  cases c with
  | array items =>
    simp only [rename_array, rename_list, List.map_map, Cell.array.injEq]
    exact List.map_congr_left h
  | object entries =>
    simp only [rename_object, rename_pairs, List.map_map, Cell.object.injEq]
    exact List.map_congr_left fun e he => Prod.ext rfl (h e.2 (List.mem_map_of_mem he))

theorem Within.cell_refs {s : Scope} {c : Cell} (h : Within s c) :
    ∀ a ∈ c.refs, a ∈ s.cells := by
  intro a ha
  obtain ⟨v, hv, hav⟩ := List.mem_flatMap.1 ha
  exact Within.refs (h v hv) a hav

namespace Entries

variable {α : Type} [Carries α] {s : Scope} {es : Entries α}

theorem get?_rename (ρ : Renaming) (k : Text) (es : Entries α) :
    get? k (rename ρ es) = rename ρ (get? k es) := by
  induction es with
  | nil => rfl
  | cons e es ih =>
    obtain ⟨k', v⟩ := e
    by_cases h : k' = k <;> simp [get?, h, ih]

theorem within_get? (h : Within s es) (k : Text) : Within s (get? k es) := by
  induction es with
  | nil => exact within_none s
  | cons e es ih =>
    obtain ⟨k', v⟩ := e
    rw [within_cons] at h
    by_cases hk : k' = k
    · simpa [get?, hk] using h.1
    · simpa [get?, hk] using ih h.2

theorem keys_rename (ρ : Renaming) (es : Entries α) : keys (rename ρ es) = keys es := by
  simp [keys, rename, Function.comp_def]

theorem set_rename (ρ : Renaming) (k : Text) (v : α) (es : Entries α) :
    set k (rename ρ v) (rename ρ es) = rename ρ (set k v es) := by
  induction es with
  | nil => rfl
  | cons e es ih =>
    obtain ⟨k', w⟩ := e
    by_cases h : k' = k <;> simp [set, h, ih]

theorem within_set {v : α} (hv : Within s v) (h : Within s es) (k : Text) :
    Within s (set k v es) := by
  induction es with
  | nil => exact within_cons.2 ⟨hv, within_nil s⟩
  | cons e es ih =>
    obtain ⟨k', w⟩ := e
    rw [within_cons] at h
    by_cases hk : k' = k
    · simpa [set, hk] using And.intro hv h.2
    · simpa [set, hk] using And.intro h.1 (ih h.2)

end Entries
end NodeWalk
