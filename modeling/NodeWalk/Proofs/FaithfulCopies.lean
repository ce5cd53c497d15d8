import NodeWalk.Proofs.DocumentLaws
import NodeWalk.Proofs.MirroredWrites
import NodeWalk.Proofs.OneEntry

set_option autoImplicit false

/-!
# Faithful copies

A copy looks like the value it was made of: every pointer reads the same scalar in both, or
containers of one kind, or is refused alike. Two pointers lead to one container of the copy if
they lead to one container of the value, and only then, so what was shared stays shared and what
contained itself still does. No container of the copy is one that the value leads to.
-/
namespace NodeWalk

namespace Cell

variable {ρ : Renaming} {c : Cell} {x : Value} {s : Slot}

theorem kind_rename (ρ : Renaming) (c : Cell) : (rename ρ c).kind = c.kind := by
  cases c <;> rfl

theorem slot_rename (ρ : Renaming) (path token : Text) (append : Bool) (c : Cell) :
    (rename ρ c).slot path token append = c.slot path token append := by
  cases c with
  | object entries => rfl
  | array items => rw [rename_array, slot, length_rename, slot]

theorem at?_rename (ρ : Renaming) (c : Cell) (s : Slot) :
    (rename ρ c).at? s = (c.at? s).map (rename ρ) := by
  cases c with
  | object entries =>
    cases s with
    | item i => rfl
    | key k => exact Entries.get?_rename ρ k entries
  | array items =>
    cases s with
    | key k => rfl
    | item i => exact List.getElem?_map

end Cell

namespace Objects

variable {h g : Objects} {ρ : Renaming} {sc : Scope} {v w x : Value} {path : Text}

theorem Images.walk_rename (hm : Images ρ sc h g) (hv : Within sc v) (path : Text)
    (tokens : List Text) : Document.walk g path tokens (rename ρ v) =
      (Document.walk h path tokens v).map (rename ρ) := by
  induction tokens generalizing v with
  | nil => rfl
  | cons token tokens ih =>
    cases v with
    | scalar b => rfl
    | ref a =>
      have ha : a ∈ sc.cells := hv
      rw [rename_ref, Document.walk_ref, Document.walk_ref, hm.cell a ha, Cell.slot_rename]
      cases (h.cell a).slot path token false with
      | error f => rfl
      | ok s =>
        dsimp only
        rw [Cell.at?_rename]
        cases hx : (h.cell a).at? s with
        | none => rfl
        | some x => exact ih (hm.within a ha x (Cell.mem_values_of_at? hx))

theorem Images.get_rename (hm : Images ρ sc h g) (hv : Within sc v) (path : Text) :
    Document.get g (rename ρ v) (.text path) =
      (Document.get h v (.text path)).map (rename ρ) := by
  rw [Document.get_text, Document.get_text]
  cases Pointer.tokens path with
  | error f => rfl
  | ok tokens => exact hm.walk_rename hv path tokens

inductive ReadsAlike (h g : Objects) : Except Fault Value → Except Fault Value → Prop where
  | refused (f : Fault) : ReadsAlike h g (.error f) (.error f)
  | scalar (b : Scalar) : ReadsAlike h g (.ok (.scalar b)) (.ok (.scalar b))
  | container {a a' : Addr} (kind : (g.cell a').kind = (h.cell a).kind) :
    ReadsAlike h g (.ok (.ref a)) (.ok (.ref a'))

/-- Among the objects `g` the value `w` is a copy of `v` among the objects `h`. -/
structure Copies (h : Objects) (v : Value) (g : Objects) (w : Value) : Prop where
  kept : h.Kept g
  reads : ∀ path, ReadsAlike h g (Document.get h v (.text path)) (Document.get g w (.text path))
  shares : ∀ p q a b a' b', Document.get h v (.text p) = .ok (.ref a) →
    Document.get h v (.text q) = .ok (.ref b) → Document.get g w (.text p) = .ok (.ref a') →
      Document.get g w (.text q) = .ok (.ref b') → (a' = b' ↔ a = b)
  looks : g.unfold w = h.unfold v
  apart : ∀ a ∈ g.reach w, a ∉ g.reach v

theorem mem_reach_of_get {a : Addr} (hget : Document.get h v (.text path) = .ok (.ref a)) :
    a ∈ h.reach v := by
  obtain ⟨tokens, -, hwalk⟩ := Document.exists_of_get_ok hget
  exact Document.refs_of_walk hwalk a (List.mem_singleton.2 rfl)

theorem rename_moved_scalar (cells : List Addr) (base : Nat) (b : Scalar) :
    rename (Renaming.moved cells base) (Value.scalar b) = .scalar b :=
  congrArg Value.scalar (Carries.same b)

/-- The new cells are behind all that there were. -/
theorem le_of_mem_copy {a : Addr} (ha : a ∈ (h.copy v).2.reach (h.copy v).1) :
    h.cells.size ≤ a := by
  have hr := (images_copy h v).reach_rename (within_reached h v)
  rw [copy_eq] at hr ha
  rw [hr] at ha
  obtain ⟨b, hb, rfl⟩ := List.mem_map.1 ha
  obtain ⟨i, -, -, he⟩ := exists_moved hb h.cells.size
  rw [he]
  exact Nat.le_add_right _ _

theorem copies_copy (hv : h.Has v) : Copies h v (h.copy v).2 (h.copy v).1 := by
  have hm := images_copy h v
  have hfirst : (h.copy v).1 = rename (Renaming.moved (h.reach v) h.cells.size) v := by
    rw [copy_eq]
  have hget := fun path => hm.get_rename (within_reached h v) path
  rw [← hfirst] at hget
  refine ⟨kept_copy v h, fun path => ?_, fun p q a b a' b' hp hq hp' hq' => ?_, unfold_copy h v,
    fun a ha hav => ?_⟩
  · rw [hget path]
    cases hread : Document.get h v (.text path) with
    | error f => exact .refused f
    | ok x =>
      cases x with
      | scalar b =>
        rw [Except.map, rename_moved_scalar]
        exact .scalar b
      | ref a =>
        refine .container ?_
        rw [hm.cell a (mem_reach_of_get hread), Cell.kind_rename]
  · rw [hget p, hp] at hp'
    rw [hget q, hq] at hq'
    cases hp'
    cases hq'
    exact ⟨fun he => hm.inj (mem_reach_of_get hp) (mem_reach_of_get hq) he, fun he => by rw [he]⟩
  · rw [hv.reach_kept (kept_copy v h)] at hav
    exact absurd (hv a hav) (Nat.not_lt_of_le (le_of_mem_copy ha))

end Objects
end NodeWalk
