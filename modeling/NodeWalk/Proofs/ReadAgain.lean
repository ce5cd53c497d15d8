import NodeWalk.Proofs.ReadText
import NodeWalk.Proofs.WrittenDocument

set_option autoImplicit false

/-!
# Documents read again

What was read from a text is not changed by writing it and reading it again: of equal keys
one has been left, and what is not a number is so in the one way that documents have.
-/
namespace NodeWalk

namespace Binary64

theorem isNaN_ofMagnitude (negative : Bool) {bits : Nat} (h : bits ≤ infinityBits) :
    (ofMagnitude negative bits).isNaN = false := by
  rw [infinityBits] at h
  have hsize : UInt64.size = 2 ^ 64 := rfl
  have hbits : (ofMagnitude negative bits).bits.toNat =
      (if negative then Nat.pow 2 63 else 0) + bits := by
    refine UInt64.toNat_ofNat_of_lt' ?_
    rw [Nat.pow_eq]
    split <;> omega
  rw [isNaN, Bool.and_eq_false_iff, beq_eq_false_iff_ne, bne_eq_false_iff_eq, exponentField_eq,
    fraction_eq, hbits, Nat.pow_eq]
  split <;> omega

theorem readBack_ofMagnitude (negative : Bool) {bits : Nat} (h : bits ≤ infinityBits) :
    (ofMagnitude negative bits).readBack = ofMagnitude negative bits := by
  rw [readBack, isNaN_ofMagnitude negative h]
  rfl

theorem readBack_ofDecimal (negative : Bool) (digits : Nat) (exponent : Int) :
    (ofDecimal negative digits exponent).readBack = ofDecimal negative digits exponent := by
  refine readBack_ofMagnitude negative ?_
  split
  · exact Nat.zero_le _
  split
  · exact Nat.le_refl _
  split
  · exact Nat.zero_le _
  · exact Nat.min_le_left _ _

end Binary64

namespace Json

variable {cs rest : List CodePoint} {a : Scalar} {j : Json}

theorem readBack_readNumber? (h : readNumber? cs = some (.ok (a, rest))) : a.readBack = a := by
  unfold readNumber? at h
  dsimp only at h
  split at h
  · cases h
  · have h := Option.some.inj h
    split at h
    · split at h
      · cases h
      · cases h
        rfl
    · cases h
      exact congrArg Scalar.float (Binary64.readBack_ofDecimal _ _ _)

theorem readBack_readScalar (h : readScalar cs = .ok (a, rest)) : a.readBack = a := by
  unfold readScalar at h
  split at h
  · cases h
    rfl
  · cases h
    rfl
  · cases h
    rfl
  · cases h
    rfl
  · cases h
    rfl
  · cases h
    rfl
  · cases hn : readNumber? cs with
    | none =>
      rw [hn] at h
      cases h
    | some r =>
      rw [hn] at h
      exact readBack_readNumber? (hn.trans (congrArg some h))

/-- The tree is left as it is by writing and reading, and no object in it has a key twice. -/
structure Stays (j : Json) : Prop where
  readBack : j.readBack = j
  distinct : j.unfolding.Distinct

end Json

theorem Entries.nodup_set {α : Type} {es : Entries α} (h : (keys es).Nodup) (k : Text) (v : α) :
    (keys (set k v es)).Nodup := by
  rw [keys_set]
  split
  · exact h
  · rw [← List.concat_eq_append]
    exact h.concat ‹_›

theorem Entries.nodup_ofPairs {α : Type} (ps : List (Text × α)) :
    (keys (ofPairs ps)).Nodup := by
  have hfold (es : Entries α) (h : (keys es).Nodup) :
      (keys (ps.foldl (fun es p => set p.1 p.2 es) es)).Nodup := by
    induction ps generalizing es with
    | nil => exact h
    | cons p ps ih => exact ih _ (nodup_set h p.1 p.2)
  exact hfold [] List.nodup_nil

namespace Json

theorem stays_read {cs : List CodePoint} {j : Json} (h : read cs = .ok j) : j.Stays := by
  refine Readable.read ⟨fun hs => ?_, fun t _ => ?_, fun items hitems => ?_, fun ps hps => ?_⟩ h
  · exact ⟨congrArg Json.scalar (readBack_readScalar hs), .scalar _⟩
  · exact ⟨rfl, .scalar _⟩
  · constructor
    · rw [readBack, itemsReadBack_eq, List.map_congr_left fun j hj => (hitems j hj).readBack,
        List.map_id']
    · rw [unfolding, unfoldings_eq]
      exact .array (List.forall_mem_map.2 fun j hj => (hitems j hj).distinct)
  · have hall := Entries.forall_ofPairs fun p hp => (hps p hp).2
    constructor
    · rw [readBack, membersReadBack_eq, List.map_congr_left fun e he => by
        rw [(hall e he).readBack], List.map_id']
    · rw [unfolding]
      refine .object ?_ ?_
      · rw [keys_memberUnfoldings]
        exact Entries.nodup_ofPairs ps
      · rw [memberUnfoldings_eq]
        exact List.forall_mem_map.2 fun e he => (hall e he).distinct

end Json
end NodeWalk
