import Mathlib.Data.Option.Basic
import NodeWalk.Run.Record

set_option autoImplicit false

/-!
# Sameness of keys

Numbers are the same key when they stand in the same place, be they integers, truth values or
floating-point numbers. What is not a number has no place, and like everything else it is only
the same as itself. So sameness of scalars, and that of keys part by part, are equivalences.
-/
namespace NodeWalk

namespace Position

theorem compare_eq_iff {p q : Position} : p.compare q = .eq ↔ p = q := by
  cases p <;> cases q <;> simp [compare]

theorem ofInt_inj {m n : Int} : ofInt m = ofInt n ↔ m = n := by
  have hunit : unit ≠ 0 := by decide +kernel
  rw [ofInt, ofInt, Position.finite.injEq]
  exact Int.mul_eq_mul_right_iff hunit

end Position

theorem Number.compare?_eq_iff {x y : Number} : x.compare? y = some .eq ↔
    ∃ p, x.position? = some p ∧ y.position? = some p := by
  have hplaces : (do some (Position.compare (← x.position?) (← y.position?))) = some .eq ↔
      ∃ p, x.position? = some p ∧ y.position? = some p := by
    cases x.position? with
    | none => simp
    | some p => cases y.position? with
      | none => simp
      | some q => simpa [Position.compare_eq_iff] using eq_comm
  cases x with
  | float x => exact hplaces
  | int m =>
    cases y with
    | float y => exact hplaces
    | int n => simpa [compare?, position?, Position.ofInt_inj] using eq_comm

namespace Scalar

variable {s t : Scalar}

def IsNaN (s : Scalar) : Prop := ∃ x, s = .float x ∧ x.isNaN = true

/-- Where a number stands, and of any other scalar the scalar itself. -/
def place (s : Scalar) : Position ⊕ Scalar :=
  match s.number?.bind Number.position? with
  | some p => .inl p
  | none => .inr s

theorem place_eq_inl_iff {p : Position} :
    s.place = .inl p ↔ ∃ x, s.number? = some x ∧ x.position? = some p := by
  unfold place
  cases h : s.number?.bind Number.position? with
  | some q => simp [← Option.bind_eq_some_iff, h]
  | none => simp [← Option.bind_eq_some_iff, h]

theorem eq_of_place_eq_inr {u : Scalar} (h : s.place = .inr u) : s = u := by
  unfold place at h
  split at h
  · cases h
  · exact Sum.inr.inj h

theorem place_eq_of_agree (h : s.agree t = true) : s.place = t.place := by
  unfold agree at h
  split at h
  · rename_i x y hx hy
    obtain ⟨p, hp, hq⟩ := Number.compare?_eq_iff.1 (beq_iff_eq.1 h)
    rw [place_eq_inl_iff.2 ⟨x, hx, hp⟩, place_eq_inl_iff.2 ⟨y, hy, hq⟩]
  · rw [of_decide_eq_true h]
  · cases h

theorem agree_of_place {p : Position} (hs : s.place = .inl p) (ht : t.place = .inl p) :
    s.agree t = true := by
  obtain ⟨x, hx, hp⟩ := place_eq_inl_iff.1 hs
  obtain ⟨y, hy, hq⟩ := place_eq_inl_iff.1 ht
  simp only [agree, hx, hy, beq_iff_eq]
  exact Number.compare?_eq_iff.2 ⟨p, hp, hq⟩

theorem same_iff : s.same t = true ↔ s.place = t.place := by
  rw [same, Bool.or_eq_true, decide_eq_true_eq]
  constructor
  · rintro (rfl | h)
    · rfl
    · exact place_eq_of_agree h
  · intro h
    cases ht : t.place with
    | inl p => exact .inr (agree_of_place (h.trans ht) ht)
    | inr u => exact .inl ((eq_of_place_eq_inr (h.trans ht)).trans (eq_of_place_eq_inr ht).symm)

theorem same_equivalence : Equivalence fun s t : Scalar => s.same t = true where
  refl := same_refl
  symm h := same_iff.2 (same_iff.1 h).symm
  trans h h' := same_iff.2 ((same_iff.1 h).trans (same_iff.1 h'))

theorem agree_self (h : ¬ s.IsNaN) : s.agree s = true := by
  cases s with
  | float x =>
    have hnumber : x.isNaN = false := Bool.eq_false_iff.2 fun hx => h ⟨x, rfl, hx⟩
    have hplace : ∃ p, x.position? = some p := by
      rw [Binary64.position?, if_neg (by simp [hnumber])]
      split
      · exact ⟨_, rfl⟩
      · exact ⟨_, rfl⟩
    obtain ⟨p, hp⟩ := hplace
    simp only [agree, number?, beq_iff_eq]
    exact Number.compare?_eq_iff.2 ⟨p, hp, hp⟩
  | _ => simp [agree, number?, Number.compare?]

theorem agree_eq_same (h : ¬ t.IsNaN) : s.agree t = t.same s := by
  rw [Bool.eq_iff_iff]
  constructor
  · exact fun hs => same_iff.2 (place_eq_of_agree hs).symm
  · intro hs
    have hplace := same_iff.1 hs
    cases ht : t.place with
    | inl p => exact agree_of_place (hplace.symm.trans ht) ht
    | inr u =>
      obtain rfl := eq_of_place_eq_inr ht
      obtain rfl := eq_of_place_eq_inr (hplace.symm.trans ht)
      exact agree_self h

end Scalar

namespace Key

variable {k l : Key}

theorem same_iff : k.same l = true ↔ k.entity.same l.entity = true ∧
    k.index.same l.index = true ∧ k.socket.same l.socket = true := by
  rw [same, Bool.and_eq_true, Bool.and_eq_true, and_assoc]

theorem same_equivalence : Equivalence fun k l : Key => k.same l = true where
  refl := same_refl
  symm h := by
    obtain ⟨hentity, hindex, hsocket⟩ := same_iff.1 h
    exact same_iff.2 ⟨Scalar.same_equivalence.symm hentity, Scalar.same_equivalence.symm hindex,
      Scalar.same_equivalence.symm hsocket⟩
  trans h h' := by
    obtain ⟨hentity, hindex, hsocket⟩ := same_iff.1 h
    obtain ⟨hentity', hindex', hsocket'⟩ := same_iff.1 h'
    exact same_iff.2 ⟨Scalar.same_equivalence.trans hentity hentity',
      Scalar.same_equivalence.trans hindex hindex', Scalar.same_equivalence.trans hsocket hsocket'⟩

end Key
end NodeWalk
