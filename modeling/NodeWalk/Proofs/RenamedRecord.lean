import NodeWalk.Proofs.NodeRecord
import NodeWalk.Proofs.Renaming

set_option autoImplicit false

/-!
# The renamed record

Keys of nodes carry no marks, so a record is read and written alike on both sides of
a renaming.
-/
namespace NodeWalk

instance : Carries Key where
  rename ρ k := ⟨rename ρ k.entity, rename ρ k.index, rename ρ k.socket⟩
  Within s k := Within s k.entity ∧ Within s k.index ∧ Within s k.socket
  mono hs h := ⟨Carries.mono hs h.1, Carries.mono hs h.2.1, Carries.mono hs h.2.2⟩
  congr hs h := by rw [Carries.congr hs h.1, Carries.congr hs h.2.1, Carries.congr hs h.2.2]
  same k := by rw [Carries.same, Carries.same, Carries.same]

instance : Carries Record where
  rename ρ r := ⟨rename ρ r.entries⟩
  Within s r := Within s r.entries
  mono hs h := Carries.mono (α := List (Key × Value)) hs h
  congr hs h := congrArg Record.mk (Carries.congr (α := List (Key × Value)) hs h)
  same r := congrArg Record.mk (Carries.same r.entries)

section

variable {ρ : Renaming} {s : Scope}

namespace Record

theorem same_mapMark {l a : Scalar} (hl : ∀ x, l ≠ .float x) (f : Nat → Nat) :
    l.same (a.mapMark f) = l.same a := by
  cases a with
  | float x =>
    have hn : l.agree ((Scalar.float x).mapMark f) = l.agree (.float x) := by
      cases l with
      | float y => exact absurd rfl (hl y)
      | _ => rfl
    have hne (y : Binary64) : (l = Scalar.float y) = False := eq_false (hl y)
    simp only [Scalar.same, hn]
    simp [Scalar.mapMark, hne]
  | _ => rfl

theorem find?_rename {es : List (Key × Value)} (h : OfNodes es) (k : Key) (ρ σ : Renaming) :
    find? (rename σ k) (rename ρ es) = rename ρ (find? k es) := by
  induction es with
  | nil => rfl
  | cons e es ih =>
    obtain ⟨⟨i, x, he⟩, hes⟩ := List.forall_mem_cons.1 h
    obtain ⟨l, v⟩ := e
    obtain rfl : l = nodeKey i x := he
    have hsame : (nodeKey i x).same (rename σ k) = (nodeKey i x).same k := by
      simp only [Key.same, nodeKey]
      exact congrArg₂ and (congrArg₂ and (same_mapMark (by simp) _) (same_mapMark (by simp) _))
        (same_mapMark (by simp) _)
    rw [rename_cons, rename_pair, find?, find?, hsame, ih hes]
    split <;> rfl

theorem within_find? {es : List (Key × Value)} (h : Within s es) (k : Key) :
    Within s (find? k es) := by
  induction es with
  | nil => exact within_none s
  | cons e es ih =>
    obtain ⟨he, hes⟩ := within_cons.1 h
    unfold find?
    split
    · exact within_some.2 he
    · exact ih hes

theorem write_rename (ρ : Renaming) (k : Key) (v : Value) (es : List (Key × Value)) :
    write k (rename ρ v) (rename ρ es) = rename ρ (write k v es) := by
  induction es with
  | nil => rfl
  | cons e es ih =>
    obtain ⟨l, w⟩ := e
    by_cases h : l.same k <;> simp [write, h, ih]

end Record

namespace Node

theorem recorded_rename (ρ : Renaming) (index : Nat) (result : Entries Value) (r : Record) :
    recorded index (rename ρ result) (rename ρ r) = rename ρ (recorded index result r) := by
  induction result generalizing r with
  | nil => rfl
  | cons e result ih =>
    rw [rename_cons, recorded_cons, recorded_cons, ← ih]
    exact congrArg (fun es => recorded index (rename ρ result) ⟨es⟩)
      (Record.write_rename ρ _ e.2 r.entries)

theorem within_recorded {result : Entries Value} {r : Record} (hres : Within s result)
    (hr : Within s r) (index : Nat) : Within s (recorded index result r) :=
  forall_recorded (P := Within s) hr hres index

end Node

end
end NodeWalk
