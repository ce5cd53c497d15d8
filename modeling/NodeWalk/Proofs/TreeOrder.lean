import Mathlib.Data.List.Perm.Subperm
import NodeWalk.Proofs.WrittenTree
import NodeWalk.Value.Compare

set_option autoImplicit false

/-!
# Equality and order of trees

Trees without numbers that round compare by what they hold. Equality asks objects for their keys
in any order, and order asks arrays for their first unequal items. The first is an equivalence.
The second is not defined everywhere, but where it is defined, the two fit together.
-/
namespace NodeWalk

instance : Std.TransOrd CodePoint :=
  inferInstanceAs (Std.TransCmp (compareOn CodePoint.toNat))

instance : Std.LawfulEqOrd CodePoint where
  eq_of_compare {a b} h := by
    have hnat : compare a.toNat b.toNat = .eq := h
    exact CodePoint.toNat_inj.1 (Std.LawfulEqOrd.eq_of_compare hnat)

instance : Std.TransOrd Text := inferInstanceAs (Std.TransCmp (compareOn Text.points))

instance : Std.LawfulEqOrd Text where
  eq_of_compare {s t} h := by
    have hpoints : compare s.points t.points = .eq := h
    exact Text.ext (Std.LawfulEqOrd.eq_of_compare hpoints)

namespace Scalar

def Exact : Scalar → Prop
  | .float _ => False
  | _ => True

def counted : Scalar → Scalar
  | .bool b => .int (if b then 1 else 0)
  | s => s

def order? (s t : Scalar) : Option Ordering :=
  match s.counted, t.counted with
  | .int m, .int n => some (compare m n)
  | .text s, .text t => some (compare s t)
  | _, _ => none

variable {s t u : Scalar}

theorem agree_iff (hs : s.Exact) (ht : t.Exact) : s.agree t = true ↔ s.counted = t.counted := by
  cases s <;> cases t <;>
    first
    | exact hs.elim
    | exact ht.elim
    | simp [agree, counted, number?, Number.compare?]

theorem ordered?_eq (hs : s.Exact) (ht : t.Exact) (op : Comparison) :
    s.ordered? op t = (s.order? t).map op.holds := by
  cases s <;> cases t <;> first | exact hs.elim | exact ht.elim | rfl

theorem order?_eq_some_iff {o : Ordering} : s.order? t = some o ↔
    (∃ m n, s.counted = .int m ∧ t.counted = .int n ∧ compare m n = o) ∨
      ∃ a b, s.counted = .text a ∧ t.counted = .text b ∧ compare a b = o := by
  unfold order?
  cases s.counted <;> cases t.counted <;> simp

theorem order?_swap (s t : Scalar) : t.order? s = (s.order? t).map Ordering.swap := by
  unfold order?
  cases s.counted <;> cases t.counted <;>
    first
    | rfl
    | exact congrArg some Std.OrientedCmp.eq_swap

theorem order?_eq_iff {o : Ordering} (h : s.order? t = some o) :
    o = .eq ↔ s.counted = t.counted := by
  obtain ⟨m, n, hs, ht, rfl⟩ | ⟨a, b, hs, ht, rfl⟩ := order?_eq_some_iff.1 h <;>
    simp [hs, ht]

theorem order?_trans (h : s.order? t = some .lt) (h' : t.order? u = some .lt) :
    s.order? u = some .lt := by
  obtain ⟨m, n, hs, ht, hlt⟩ | ⟨a, b, hs, ht, hlt⟩ := order?_eq_some_iff.1 h
  · obtain ⟨n', k, ht', hu, hlt'⟩ | ⟨_, _, ht', -, -⟩ := order?_eq_some_iff.1 h'
    · cases ht.symm.trans ht'
      exact order?_eq_some_iff.2 (.inl ⟨m, k, hs, hu, Std.TransCmp.lt_trans hlt hlt'⟩)
    · cases ht.symm.trans ht'
  · obtain ⟨_, _, ht', -, -⟩ | ⟨b', c, ht', hu, hlt'⟩ := order?_eq_some_iff.1 h'
    · cases ht.symm.trans ht'
    · cases ht.symm.trans ht'
      exact order?_eq_some_iff.2 (.inr ⟨a, c, hs, hu, Std.TransCmp.lt_trans hlt hlt'⟩)

end Scalar

theorem Entries.mem_keys_iff {α : Type} {key : Text} {es : Entries α} :
    key ∈ keys es ↔ ∃ v, get? key es = some v := by
  rw [← contains_iff_mem_keys, contains, Option.isSome_iff_exists]

namespace Json

mutual

def equal : Json → Json → Bool
  | .scalar s, .scalar t => s.agree t
  | .array js, .array ks => equalItems js ks
  | .object es, .object fs => es.length == fs.length && equalMembers es fs
  | _, _ => false

def equalItems : List Json → List Json → Bool
  | [], [] => true
  | j :: js, k :: ks => equal j k && equalItems js ks
  | _, _ => false

def equalMembers : List (Text × Json) → Entries Json → Bool
  | [], _ => true
  | (key, j) :: es, fs =>
    (match Entries.get? key fs with
      | some k => equal j k
      | none => false) && equalMembers es fs

end

/-- No number that rounds is in the tree, and no key stands twice in an object of it. -/
inductive Exact : Json → Prop where
  | scalar {s : Scalar} (h : s.Exact) : Exact (.scalar s)
  | array {items : List Json} (h : ∀ j ∈ items, Exact j) : Exact (.array items)
  | object {entries : List (Text × Json)} (hkeys : (Entries.keys entries).Nodup)
    (h : ∀ e ∈ entries, Exact e.2) : Exact (.object entries)

variable {j k l : Json} {js ks ls : List Json} {es fs gs : List (Text × Json)}

theorem equal_scalar_iff {s t : Scalar} (hs : s.Exact) (ht : t.Exact) :
    equal (.scalar s) (.scalar t) = true ↔ s.counted = t.counted := by
  rw [equal]
  exact Scalar.agree_iff hs ht

abbrev Alike : Option Json → Option Json → Prop := Option.Rel fun j k => j.equal k = true

namespace Alike

variable {o p q : Option Json}

theorem refl (h : ∀ j ∈ o, j.equal j = true) : Alike o o := by
  cases o with
  | none => exact .none
  | some j => exact .some (h j rfl)

theorem symm (ho : Alike o p) (h : ∀ j ∈ o, ∀ k ∈ p, j.equal k = true → k.equal j = true) :
    Alike p o := by
  cases ho with
  | none => exact .none
  | some hjk => exact .some (h _ rfl _ rfl hjk)

theorem trans (ho : Alike o p) (hp : Alike p q)
    (h : ∀ j ∈ o, ∀ k ∈ p, ∀ l ∈ q, j.equal k = true → k.equal l = true → j.equal l = true) :
    Alike o q := by
  cases ho with
  | none => exact hp
  | some hjk =>
    cases hp with
    | some hkl => exact .some (h _ rfl _ rfl _ rfl hjk hkl)

theorem isSome_eq (ho : Alike o p) : o.isSome = p.isSome := by
  cases ho <;> rfl

end Alike

theorem equal_array_iff :
    equal (.array js) (.array ks) = true ↔ ∀ i : Nat, Alike js[i]? ks[i]? := by
  rw [equal]
  induction js generalizing ks with
  | nil =>
    cases ks with
    | nil => simp [equalItems]
    | cons k ks =>
      refine iff_of_false (by simp [equalItems]) fun h => ?_
      exact nomatch h 0
  | cons j js ih =>
    cases ks with
    | nil =>
      refine iff_of_false (by simp [equalItems]) fun h => ?_
      exact nomatch h 0
    | cons k ks =>
      rw [equalItems, Bool.and_eq_true, ih]
      refine ⟨fun h i => ?_, fun h => ⟨?_, fun i => h (i + 1)⟩⟩
      · cases i with
        | zero => exact .some h.1
        | succ i => exact h.2 i
      · cases h 0 with
        | some hjk => exact hjk

theorem equalMembers_iff : equalMembers es fs = true ↔
    ∀ e ∈ es, ∃ k, Entries.get? e.1 fs = some k ∧ e.2.equal k = true := by
  induction es with
  | nil => simp [equalMembers]
  | cons e es ih =>
    obtain ⟨key, j⟩ := e
    rw [equalMembers, Bool.and_eq_true, List.forall_mem_cons, ih]
    cases Entries.get? key fs <;> simp

theorem equal_object_iff (hes : (Entries.keys es).Nodup) (hfs : (Entries.keys fs).Nodup) :
    equal (.object es) (.object fs) = true ↔
      ∀ key, Alike (Entries.get? key es) (Entries.get? key fs) := by
  have hlength (gs : List (Text × Json)) : (Entries.keys gs).length = gs.length :=
    List.length_map _
  rw [equal, Bool.and_eq_true, beq_iff_eq, equalMembers_iff]
  constructor
  · rintro ⟨hsize, hall⟩ key
    have hsub : Entries.keys es ⊆ Entries.keys fs := by
      intro key hkey
      obtain ⟨e, he, rfl⟩ := List.mem_map.1 hkey
      obtain ⟨k, hk, -⟩ := hall e he
      exact Entries.mem_keys_iff.2 ⟨k, hk⟩
    have hperm : (Entries.keys es).Perm (Entries.keys fs) :=
      (hes.subperm hsub).perm_of_length_le (by rw [hlength, hlength, hsize])
    cases hj : Entries.get? key es with
    | none =>
      cases hk : Entries.get? key fs with
      | none => exact .none
      | some k =>
        have hmem := hperm.mem_iff.2 (Entries.mem_keys_iff.2 ⟨k, hk⟩)
        obtain ⟨j, hget⟩ := Entries.mem_keys_iff.1 hmem
        cases hj.symm.trans hget
    | some j =>
      obtain ⟨k, hk, hjk⟩ := hall (key, j) (Entries.mem_of_get? hj)
      rw [hk]
      exact .some hjk
  · intro hrel
    have hmem (key : Text) : key ∈ Entries.keys es ↔ key ∈ Entries.keys fs := by
      rw [Entries.mem_keys_iff, Entries.mem_keys_iff, ← Option.isSome_iff_exists,
        ← Option.isSome_iff_exists, (hrel key).isSome_eq]
    refine ⟨?_, fun e he => ?_⟩
    · rw [← hlength es, ← hlength fs]
      exact ((List.perm_ext_iff_of_nodup hes hfs).2 hmem).length_eq
    · have hkey := hrel e.1
      rw [Entries.get?_of_mem hes he] at hkey
      generalize Entries.get? e.1 fs = o at hkey ⊢
      cases hkey with
      | some hjk => exact ⟨_, rfl, hjk⟩

theorem equal_refl (hj : j.Exact) : j.equal j = true := by
  induction hj with
  | scalar h => exact (equal_scalar_iff h h).2 rfl
  | array _ ih => exact equal_array_iff.2 fun _ => .refl fun _ hj => ih _ (List.mem_of_getElem? hj)
  | object hkeys _ ih =>
    exact (equal_object_iff hkeys hkeys).2 fun _ => .refl fun _ hj => ih _ (Entries.mem_of_get? hj)

theorem equal_symm (hj : j.Exact) (hk : k.Exact) (h : j.equal k = true) : k.equal j = true := by
  induction hj generalizing k with
  | scalar hs =>
    cases hk with
    | scalar ht => exact (equal_scalar_iff ht hs).2 ((equal_scalar_iff hs ht).1 h).symm
    | _ => simp [equal] at h
  | array _ ih =>
    cases hk with
    | array hks =>
      refine equal_array_iff.2 fun i => (equal_array_iff.1 h i).symm fun j hj k hk => ?_
      exact ih j (List.mem_of_getElem? hj) (hks k (List.mem_of_getElem? hk))
    | _ => simp [equal] at h
  | object hes _ ih =>
    cases hk with
    | object hfs hall =>
      refine (equal_object_iff hfs hes).2 fun key =>
        ((equal_object_iff hes hfs).1 h key).symm fun j hj k hk => ?_
      exact ih _ (Entries.mem_of_get? hj) (hall _ (Entries.mem_of_get? hk))
    | _ => simp [equal] at h

theorem equal_comm (hj : j.Exact) (hk : k.Exact) : j.equal k = k.equal j :=
  Bool.eq_iff_iff.2 ⟨equal_symm hj hk, equal_symm hk hj⟩

theorem equal_trans (hj : j.Exact) (hk : k.Exact) (hl : l.Exact) (h : j.equal k = true)
    (h' : k.equal l = true) : j.equal l = true := by
  induction hj generalizing k l with
  | scalar hs =>
    cases hk with
    | scalar ht =>
      cases hl with
      | scalar hu =>
        rw [equal_scalar_iff hs ht] at h
        rw [equal_scalar_iff ht hu] at h'
        exact (equal_scalar_iff hs hu).2 (h.trans h')
      | _ => simp [equal] at h'
    | _ => simp [equal] at h
  | array _ ih =>
    cases hk with
    | array hks =>
      cases hl with
      | array hls =>
        refine equal_array_iff.2 fun i =>
          (equal_array_iff.1 h i).trans (equal_array_iff.1 h' i) fun j hj k hk l hl => ?_
        exact ih j (List.mem_of_getElem? hj) (hks k (List.mem_of_getElem? hk))
          (hls l (List.mem_of_getElem? hl))
      | _ => simp [equal] at h'
    | _ => simp [equal] at h
  | object hes _ ih =>
    cases hk with
    | object hfs hall =>
      cases hl with
      | object hgs hothers =>
        rw [equal_object_iff hes hfs] at h
        rw [equal_object_iff hfs hgs] at h'
        refine (equal_object_iff hes hgs).2 fun key =>
          (h key).trans (h' key) fun j hj k hk l hl => ?_
        exact ih _ (Entries.mem_of_get? hj) (hall _ (Entries.mem_of_get? hk))
          (hothers _ (Entries.mem_of_get? hl))
      | _ => simp [equal] at h'
    | _ => simp [equal] at h

theorem equal_congr (hj : j.Exact) (hk : k.Exact) (hl : l.Exact) (h : j.equal k = true) :
    j.equal l = k.equal l :=
  Bool.eq_iff_iff.2 ⟨equal_trans hk hj hl (equal_symm hj hk h), equal_trans hj hk hl h⟩

mutual

def order? : Json → Json → Option Ordering
  | .scalar s, .scalar t => s.order? t
  | .array js, .array ks => orderItems? js ks
  | _, _ => none

def orderItems? : List Json → List Json → Option Ordering
  | [], [] => some .eq
  | [], _ :: _ => some .lt
  | _ :: _, [] => some .gt
  | j :: js, k :: ks => if equal j k then orderItems? js ks else order? j k

end

theorem order?_eq_none (hscalars : ∀ s t, ¬ (j = .scalar s ∧ k = .scalar t))
    (harrays : ∀ js ks, ¬ (j = .array js ∧ k = .array ks)) : j.order? k = none := by
  rw [order?]
  · exact fun s t hj hk => hscalars s t ⟨hj, hk⟩
  · exact fun js ks hj hk => harrays js ks ⟨hj, hk⟩

theorem equal_cons_iff : equal (.array (j :: js)) (.array (k :: ks)) = true ↔
    j.equal k = true ∧ equal (.array js) (.array ks) = true := by
  rw [equal, equalItems, Bool.and_eq_true, equal]

theorem orderItems?_swap (hjs : ∀ j ∈ js, j.Exact) (hks : ∀ k ∈ ks, k.Exact)
    (hswap : ∀ j ∈ js, ∀ k, k.Exact → k.order? j = (j.order? k).map Ordering.swap) :
    orderItems? ks js = (orderItems? js ks).map Ordering.swap := by
  induction js generalizing ks with
  | nil => cases ks <;> simp [orderItems?]
  | cons j js ih =>
    cases ks with
    | nil => simp [orderItems?]
    | cons k ks =>
      obtain ⟨hj, hjs⟩ := List.forall_mem_cons.1 hjs
      obtain ⟨hk, hks⟩ := List.forall_mem_cons.1 hks
      obtain ⟨hfirst, hrest⟩ := List.forall_mem_cons.1 hswap
      rw [orderItems?, orderItems?, equal_comm hk hj]
      split
      · exact ih hjs hks hrest
      · exact hfirst k hk

theorem order?_swap (hj : j.Exact) (hk : k.Exact) :
    k.order? j = (j.order? k).map Ordering.swap := by
  induction hj generalizing k with
  | @scalar s _ =>
    cases hk with
    | @scalar t _ =>
      rw [order?, order?]
      exact s.order?_swap t
    | _ => simp [order?]
  | array hjs ih =>
    cases hk with
    | array hks =>
      rw [order?, order?]
      exact orderItems?_swap hjs hks fun j hj _ hk => ih j hj hk
    | _ => simp [order?]
  | object _ _ => cases hk <;> simp [order?]

theorem orderItems?_eq_iff {o : Ordering} (hks : ∀ k ∈ ks, k.Exact)
    (hiff : ∀ j ∈ js, ∀ k, k.Exact → ∀ o, j.order? k = some o → (o = .eq ↔ j.equal k = true))
    (h : orderItems? js ks = some o) :
    o = .eq ↔ equal (.array js) (.array ks) = true := by
  induction js generalizing ks with
  | nil => cases ks <;> cases h <;> simp [equal, equalItems]
  | cons j js ih =>
    cases ks with
    | nil => cases h; simp [equal, equalItems]
    | cons k ks =>
      obtain ⟨hk, hks⟩ := List.forall_mem_cons.1 hks
      obtain ⟨hfirst, hrest⟩ := List.forall_mem_cons.1 hiff
      rw [orderItems?] at h
      rw [equal_cons_iff]
      split at h
      · rename_i hjk
        rw [ih hks hrest h]
        simp [hjk]
      · rename_i hjk
        rw [hfirst k hk o h]
        simp [hjk]

theorem order?_eq_iff (hj : j.Exact) (hk : k.Exact) {o : Ordering} (h : j.order? k = some o) :
    o = .eq ↔ j.equal k = true := by
  induction hj generalizing k o with
  | scalar hs =>
    cases hk with
    | scalar ht =>
      rw [order?] at h
      rw [Scalar.order?_eq_iff h, equal_scalar_iff hs ht]
    | _ => simp [order?] at h
  | array _ ih =>
    cases hk with
    | array hks =>
      rw [order?] at h
      exact orderItems?_eq_iff hks (fun j hj _ hk _ => ih j hj hk) h
    | _ => simp [order?] at h
  | object _ _ => cases hk <;> simp [order?] at h

/-- Equal lists are ordered alike against the same list, if that is so of their items. -/
theorem orderItems?_congr (hjs : ∀ j ∈ js, j.Exact) (hks : ∀ k ∈ ks, k.Exact)
    (hls : ∀ l ∈ ls, l.Exact)
    (hcongr : ∀ j ∈ js, ∀ k l, k.Exact → l.Exact → j.equal k = true → j.order? l = k.order? l)
    (h : equal (.array js) (.array ks) = true) : orderItems? js ls = orderItems? ks ls := by
  induction js generalizing ks ls with
  | nil =>
    cases ks with
    | nil => rfl
    | cons k ks => simp [equal, equalItems] at h
  | cons j js ih =>
    cases ks with
    | nil => simp [equal, equalItems] at h
    | cons k ks =>
      cases ls with
      | nil => rfl
      | cons l ls =>
        obtain ⟨hjk, hbehind⟩ := equal_cons_iff.1 h
        obtain ⟨hj, hjs⟩ := List.forall_mem_cons.1 hjs
        obtain ⟨hk, hks⟩ := List.forall_mem_cons.1 hks
        obtain ⟨hl, hls⟩ := List.forall_mem_cons.1 hls
        obtain ⟨hfirst, hrest⟩ := List.forall_mem_cons.1 hcongr
        rw [orderItems?, orderItems?, equal_congr hj hk hl hjk]
        split
        · exact ih hjs hks hls hrest hbehind
        · exact hfirst k l hk hl hjk

theorem order?_congr (hj : j.Exact) (hk : k.Exact) (hl : l.Exact) (h : j.equal k = true) :
    j.order? l = k.order? l := by
  induction hj generalizing k l with
  | scalar hs =>
    cases hk with
    | scalar ht =>
      rw [equal_scalar_iff hs ht] at h
      cases hl with
      | scalar hu =>
        rw [order?, order?]
        unfold Scalar.order?
        rw [h]
      | _ => simp [order?]
    | _ => simp [equal] at h
  | array hjs ih =>
    cases hk with
    | array hks =>
      cases hl with
      | array hls =>
        rw [order?, order?]
        exact orderItems?_congr hjs hks hls (fun j hj _ _ hk hl => ih j hj hk hl) h
      | _ => simp [order?]
    | _ => simp [equal] at h
  | object _ _ =>
    cases hk with
    | object _ _ => cases hl <;> simp [order?]
    | _ => simp [equal] at h

theorem order?_congr_right (hj : j.Exact) (hk : k.Exact) (hl : l.Exact) (h : k.equal l = true) :
    j.order? k = j.order? l := by
  rw [order?_swap hk hj, order?_swap hl hj, order?_congr hk hl hj h]

theorem not_equal_of_lt (hj : j.Exact) (hk : k.Exact) (h : j.order? k = some .lt) :
    j.equal k = false := by
  rw [Bool.eq_false_iff, Ne, ← order?_eq_iff hj hk h]
  decide

theorem orderItems?_trans (hjs : ∀ j ∈ js, j.Exact) (hks : ∀ k ∈ ks, k.Exact)
    (hls : ∀ l ∈ ls, l.Exact)
    (htrans : ∀ j ∈ js, ∀ k l, k.Exact → l.Exact → j.order? k = some .lt →
      k.order? l = some .lt → j.order? l = some .lt)
    (h : orderItems? js ks = some .lt) (h' : orderItems? ks ls = some .lt) :
    orderItems? js ls = some .lt := by
  induction js generalizing ks ls with
  | nil =>
    cases ls with
    | nil => cases ks <;> simp [orderItems?] at h h'
    | cons l ls => rfl
  | cons j js ih =>
    cases ks with
    | nil => simp [orderItems?] at h
    | cons k ks =>
      cases ls with
      | nil => simp [orderItems?] at h'
      | cons l ls =>
        obtain ⟨hj, hjs⟩ := List.forall_mem_cons.1 hjs
        obtain ⟨hk, hks⟩ := List.forall_mem_cons.1 hks
        obtain ⟨hl, hls⟩ := List.forall_mem_cons.1 hls
        obtain ⟨hfirst, hrest⟩ := List.forall_mem_cons.1 htrans
        rw [orderItems?] at h h' ⊢
        -- Which of the three lists differ at their first items decides where to go on.
        by_cases hjk : j.equal k = true
        · rw [equal_congr hj hk hl hjk]
          rw [if_pos hjk] at h
          by_cases hkl : k.equal l = true
          · rw [if_pos hkl] at h' ⊢
            exact ih hjs hks hls hrest h h'
          · rw [if_neg hkl] at h' ⊢
            rw [order?_congr hj hk hl hjk]
            exact h'
        · rw [if_neg hjk] at h
          have hlt : j.order? l = some .lt := by
            by_cases hkl : k.equal l = true
            · rw [← order?_congr_right hj hk hl hkl]
              exact h
            · rw [if_neg hkl] at h'
              exact hfirst k l hk hl h h'
          rw [not_equal_of_lt hj hl hlt]
          exact hlt

theorem order?_trans (hj : j.Exact) (hk : k.Exact) (hl : l.Exact) (h : j.order? k = some .lt)
    (h' : k.order? l = some .lt) : j.order? l = some .lt := by
  induction hj generalizing k l with
  | scalar _ =>
    cases hk with
    | scalar _ =>
      cases hl with
      | scalar _ =>
        rw [order?] at h h' ⊢
        exact Scalar.order?_trans h h'
      | _ => simp [order?] at h'
    | _ => simp [order?] at h
  | array hjs ih =>
    cases hk with
    | array hks =>
      cases hl with
      | array hls =>
        rw [order?] at h h' ⊢
        exact orderItems?_trans hjs hks hls (fun j hj _ _ hk hl => ih j hj hk hl) h h'
      | _ => simp [order?] at h'
    | _ => simp [order?] at h
  | object _ _ => cases hk <;> simp [order?] at h

end Json
end NodeWalk
