import NodeWalk.Run.Evaluate

set_option autoImplicit false

/-!
# The record of nodes

A run records under one kind of key: the entity of nodes, a position and the name of
a socket. On such keys sameness is equality. `recorded` writes the sockets of one
output; of several entries of the same name the last one stays.
-/
namespace NodeWalk

namespace Entries

variable {α : Type}

def last? (k : Text) : Entries α → Option α
  | [] => none
  | (k', v) :: es => (last? k es).or (if k' = k then some v else none)

end Entries

namespace Record

def nodeKey (i : Nat) (x : Text) : Key := ⟨.text nodeEntity, .int i, .text x⟩

theorem nodeKey_inj {i j : Nat} {x y : Text} (h : nodeKey i x = nodeKey j y) :
    i = j ∧ x = y := by
  simp only [nodeKey, Key.mk.injEq, Scalar.int.injEq, Scalar.text.injEq, true_and] at h
  exact ⟨Int.ofNat_inj.1 h.1, h.2⟩

theorem nodeKey_same_iff {i j : Nat} {x y : Text} :
    (nodeKey i x).same (nodeKey j y) = true ↔ i = j ∧ x = y := by
  have hint : (Scalar.int i).same (.int j) = true ↔ i = j := by
    simp only [Scalar.same, Scalar.agree, Scalar.number?, Number.compare?, Bool.or_eq_true,
      decide_eq_true_eq, Scalar.int.injEq, beq_iff_eq, Option.some.injEq, Int.compare_eq_eq]
    omega
  have htext : (Scalar.text x).same (.text y) = true ↔ x = y := by
    simp [Scalar.same, Scalar.agree, Scalar.number?]
  simp only [Key.same, nodeKey, Scalar.same_refl, Bool.true_and, Bool.and_eq_true, hint, htext]

def OfNodes (es : List (Key × Value)) : Prop := ∀ e ∈ es, ∃ i x, e.1 = nodeKey i x

variable {es : List (Key × Value)} {i j : Nat} {x y : Text} {v : Value}

theorem find?_write (h : OfNodes es) (i j : Nat) (x y : Text) (v : Value) :
    find? (nodeKey j y) (write (nodeKey i x) v es) =
      if i = j ∧ x = y then some v else find? (nodeKey j y) es := by
  induction es with
  | nil =>
    by_cases hk : i = j ∧ x = y
    · simp [write, find?, hk]
    · simp [write, find?, nodeKey_same_iff, hk]
  | cons e es ih =>
    obtain ⟨⟨l, y', he⟩, hes⟩ := List.forall_mem_cons.1 h
    obtain ⟨k, w⟩ := e
    obtain rfl : k = nodeKey l y' := he
    by_cases hl : l = i ∧ y' = x
    · obtain ⟨rfl, rfl⟩ := hl
      by_cases hk : l = j ∧ y' = y <;> simp [write, find?, nodeKey_same_iff, hk]
    · by_cases hk : l = j ∧ y' = y
      · obtain ⟨rfl, rfl⟩ := hk
        have hne : ¬ (i = l ∧ x = y') := fun hc => hl ⟨hc.1.symm, hc.2.symm⟩
        simp [write, find?, nodeKey_same_iff, hl, hne]
      · simp [write, find?, nodeKey_same_iff, hl, hk, ih hes]

theorem forall_write {P : Value → Prop} (h : ∀ e ∈ es, P e.2) (k : Key) {v : Value} (hv : P v) :
    ∀ e ∈ write k v es, P e.2 := by
  induction es with
  | nil => exact List.forall_mem_singleton.2 hv
  | cons e es ih =>
    obtain ⟨he, hes⟩ := List.forall_mem_cons.1 h
    unfold write
    split
    · exact List.forall_mem_cons.2 ⟨hv, hes⟩
    · exact List.forall_mem_cons.2 ⟨he, ih hes⟩

theorem ofNodes_write (h : OfNodes es) (i : Nat) (x : Text) (v : Value) :
    OfNodes (write (nodeKey i x) v es) := by
  induction es with
  | nil =>
    intro e he
    obtain rfl := List.mem_singleton.1 he
    exact ⟨i, x, rfl⟩
  | cons e es ih =>
    obtain ⟨he, hes⟩ := List.forall_mem_cons.1 h
    unfold write
    split
    · exact List.forall_mem_cons.2 ⟨he, hes⟩
    · exact List.forall_mem_cons.2 ⟨he, ih hes⟩

theorem keys_write (h : OfNodes es) (i : Nat) (x : Text) (v : Value) :
    (write (nodeKey i x) v es).map (·.1) =
      if nodeKey i x ∈ es.map (·.1) then es.map (·.1) else es.map (·.1) ++ [nodeKey i x] := by
  induction es with
  | nil => simp [write]
  | cons e es ih =>
    obtain ⟨⟨l, y', he⟩, hes⟩ := List.forall_mem_cons.1 h
    obtain ⟨k, w⟩ := e
    obtain rfl : k = nodeKey l y' := he
    by_cases hl : l = i ∧ y' = x
    · obtain ⟨rfl, rfl⟩ := hl
      simp [write]
    · have hne : nodeKey i x ≠ nodeKey l y' := fun hc =>
        hl ⟨(nodeKey_inj hc).1.symm, (nodeKey_inj hc).2.symm⟩
      by_cases hm : nodeKey i x ∈ es.map (·.1)
      · rw [if_pos hm] at ih
        simp [write, nodeKey_same_iff, hl, ih hes, List.mem_map.1 hm]
      · rw [if_neg hm] at ih
        rw [List.map_cons, if_neg (List.not_mem_cons_of_ne_of_not_mem hne hm)]
        simp [write, nodeKey_same_iff, hl, ih hes]

theorem nodup_write (h : OfNodes es) (hn : (es.map (·.1)).Nodup) (i : Nat) (x : Text)
    (v : Value) : ((write (nodeKey i x) v es).map (·.1)).Nodup := by
  rw [keys_write h]
  split
  · exact hn
  · rename_i hm
    refine List.nodup_append.2 ⟨hn, by simp, fun k hk l hl => ?_⟩
    rw [List.mem_singleton.1 hl]
    exact fun he => hm (he ▸ hk)

end Record

namespace Node

open Record

variable {index : Nat} {result : Entries Value} {r : Record}

theorem recorded_cons (index : Nat) (e : Text × Value) (result : Entries Value) (r : Record) :
    recorded index (e :: result) r =
      recorded index result ⟨write (nodeKey index e.1) e.2 r.entries⟩ := rfl

theorem forall_recorded {P : Value → Prop} (hr : ∀ e ∈ r.entries, P e.2)
    (hresult : ∀ e ∈ result, P e.2) (index : Nat) :
    ∀ e ∈ (recorded index result r).entries, P e.2 := by
  induction result generalizing r with
  | nil => exact hr
  | cons e result ih =>
    obtain ⟨he, hresult⟩ := List.forall_mem_cons.1 hresult
    rw [recorded_cons]
    exact ih (forall_write hr (nodeKey index e.1) he) hresult

theorem ofNodes_recorded (h : OfNodes r.entries) (index : Nat) (result : Entries Value) :
    OfNodes (recorded index result r).entries := by
  induction result generalizing r with
  | nil => exact h
  | cons e result ih =>
    rw [recorded_cons]
    exact ih (ofNodes_write h index e.1 e.2)

theorem nodup_recorded (h : OfNodes r.entries) (hn : (r.entries.map (·.1)).Nodup) (index : Nat)
    (result : Entries Value) : ((recorded index result r).entries.map (·.1)).Nodup := by
  induction result generalizing r with
  | nil => exact hn
  | cons e result ih =>
    rw [recorded_cons]
    exact ih (ofNodes_write h index e.1 e.2) (nodup_write h hn index e.1 e.2)

/-- After an output was recorded, a socket of its node has the value put out, if one
was; every other socket has the value it had. -/
theorem find?_recorded (h : OfNodes r.entries) (index : Nat) (result : Entries Value) (j : Nat)
    (y : Text) : find? (nodeKey j y) (recorded index result r).entries =
      (if index = j then Entries.last? y result else none).or
        (find? (nodeKey j y) r.entries) := by
  induction result generalizing r with
  | nil => simp [recorded, Entries.last?]
  | cons e result ih =>
    obtain ⟨x, v⟩ := e
    rw [recorded_cons, ih (ofNodes_write h index x v), find?_write h]
    by_cases hj : index = j
    · by_cases hx : x = y
      · cases hl : Entries.last? y result <;> simp [hj, hx, Entries.last?, hl]
      · cases hl : Entries.last? y result <;> simp [hj, hx, Entries.last?, hl]
    · simp [hj]

end Node
end NodeWalk
