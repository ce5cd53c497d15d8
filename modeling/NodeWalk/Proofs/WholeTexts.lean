import NodeWalk.Disk
import NodeWalk.Proofs.ReadText
import NodeWalk.Proofs.WrittenDocument

set_option autoImplicit false

/-!
# Texts of files

A file is decoded without halves of surrogate pairs. Halves that are escaped in it are joined
where they are a pair, so no text of a document in a file has two halves that are one.
-/
namespace NodeWalk

namespace Text

def Whole (cs : List CodePoint) : Prop := ∀ c ∈ cs, c.isHalf = false

theorem Whole.cons {c : CodePoint} {cs : List CodePoint} (hc : c.isHalf = false) (h : Whole cs) :
    Whole (c :: cs) := List.forall_mem_cons.2 ⟨hc, h⟩

theorem isHalf_ofNat {n : Nat} (h : n < 0xD800 ∨ 0xE000 ≤ n) :
    (CodePoint.ofNat n).isHalf = false := by
  rw [CodePoint.ofNat, if_neg (by omega), if_neg (by omega)]
  rfl

theorem Utf8.low_lt (b : UInt8) : Utf8.low b < 0x40 := by
  rw [Utf8.low, UInt8.toNat_and]
  exact Nat.lt_succ_of_le Nat.and_le_right

/-- Behind the lead octet of the halves, the second octets that belong to halves are refused. -/
theorem isHalf_of_follows {a b : UInt8} (ha : Utf8.width a = 3)
    (hb : Utf8.follows false a b = true) (c : UInt8) :
    (CodePoint.ofNat
      ((a.toNat - 0xE0) * 4096 + Utf8.low b * 64 + Utf8.low c)).isHalf = false := by
  have hlead : 0xE0 ≤ a.toNat ∧ a.toNat < 0xF0 := by
    have hall : ∀ n, n < 256 → Utf8.width (UInt8.ofNat n) = 3 → 0xE0 ≤ n ∧ n < 0xF0 := by
      decide +kernel
    exact hall a.toNat a.toNat_lt (by rwa [UInt8.ofNat_toNat])
  have hsecond : a.toNat = 0xED → Utf8.low b < 0x20 := by
    intro hed
    have hall : ∀ n, n < 256 → Utf8.follows false 0xED (UInt8.ofNat n) = true →
        Utf8.low (UInt8.ofNat n) < 0x20 := by decide +kernel
    obtain rfl : a = 0xED := UInt8.toNat_inj.1 hed
    have hlow := hall b.toNat b.toNat_lt
    rw [UInt8.ofNat_toNat] at hlow
    exact hlow hb
  have hlow := Utf8.low_lt b
  have hlow' := Utf8.low_lt c
  refine isHalf_ofNat ?_
  omega

theorem whole_decodeFrom {i : Nat} {done cs : List CodePoint} {bytes : List UInt8}
    (hdone : Whole done) (h : Utf8.decodeFrom false i done bytes = .ok cs) : Whole cs := by
  fun_induction Utf8.decodeFrom false i done bytes with
  | case1 =>
    cases h
    exact fun c hc => hdone c (List.mem_reverse.1 hc)
  | case2 _ _ _ _ _ ih => exact ih (hdone.cons rfl) h
  | case4 _ _ _ _ _ _ _ ih => exact ih (hdone.cons rfl) h
  | case8 _ _ a b ha hb c _ _ ih =>
    rw [Bool.not_eq_true, Bool.not_eq_false'] at hb
    exact ih (hdone.cons (isHalf_of_follows ha hb c)) h
  | case14 _ _ _ _ _ _ _ _ _ _ _ ih => exact ih (hdone.cons rfl) h
  | case3 | case5 | case6 | case7 | case9 | case10 | case11 | case12 | case13 | case15 | case16 =>
    cases h

theorem whole_unifyLines {cs : List CodePoint} (h : Whole cs) : Whole (unifyLines cs) := by
  induction cs using unifyLines.induct with
  | case1 => exact h
  | case2 cs ih =>
    obtain ⟨-, hcs⟩ := List.forall_mem_cons.1 h
    exact (ih (List.forall_mem_cons.1 hcs).2).cons rfl
  | case3 cs hnext ih =>
    rw [unifyLines.eq_3 cs hnext]
    exact (ih (List.forall_mem_cons.1 h).2).cons rfl
  | case4 c cs hboth hreturn ih =>
    obtain ⟨hc, hcs⟩ := List.forall_mem_cons.1 h
    rw [unifyLines.eq_4 c cs hboth hreturn]
    exact (ih hcs).cons hc

end Text

theorem Disk.whole_readText {d : Disk} {p : Path} {cs : List CodePoint}
    (h : d.readText p = .ok cs) : Text.Whole cs := by
  unfold readText at h
  split at h
  · cases h
  · cases h
  · split at h
    · cases h
      exact Text.whole_unifyLines (Text.whole_decodeFrom (List.forall_mem_nil _) ‹_›)
    · cases h

namespace Entries

variable {α : Type} {k : Text} {ps : List (Text × α)}

theorem mem_keys_foldl_set {es : Entries α}
    (h : k ∈ keys (ps.foldl (fun es p => set p.1 p.2 es) es)) : k ∈ keys es ∨ k ∈ keys ps := by
  induction ps generalizing es with
  | nil => exact .inl h
  | cons p ps ih =>
    obtain hk | hk := ih h
    · rw [keys_set] at hk
      split at hk
      · exact .inl hk
      · obtain hk | hk := List.mem_append.1 hk
        · exact .inl hk
        · rw [List.mem_singleton.1 hk]
          exact .inr List.mem_cons_self
    · exact .inr (List.mem_cons_of_mem _ hk)

theorem mem_keys_ofPairs (h : k ∈ keys (ofPairs ps)) : k ∈ keys ps :=
  (mem_keys_foldl_set h).resolve_left List.not_mem_nil

end Entries

namespace Json

/-- The last code point that was read is no half of a pair with the next one. -/
def Alone (done rest : List CodePoint) : Prop :=
  ∀ n, done.head? = some (.high n) → pairOf (CodePoint.high n).toNat rest = .alone

theorem alone_char (c : Char) (done rest : List CodePoint) : Alone (.char c :: done) rest := by
  rintro n ⟨⟩

theorem alone_unit {unit : Nat} {rest : List CodePoint} (hpair : pairOf unit rest = .alone)
    (done : List CodePoint) : Alone (.ofNat unit :: done) rest := by
  intro n hn
  have hunit : (CodePoint.high n).toNat = unit := by
    have hn := Option.some.inj hn
    unfold CodePoint.ofNat at hn
    split at hn
    · rw [← CodePoint.high.inj hn, CodePoint.toNat, Fin.val_ofNat]
      omega
    · split at hn
      · cases hn
      · cases hn
  rw [hunit]
  exact hpair

/-- The escape of a low half makes a pair with a high half before it. -/
theorem Alone.pairs_unit {done rest : List CodePoint} {a b c d : CodePoint} {unit : Nat}
    (h : Alone done (.char '\\' :: .char 'u' :: a :: b :: c :: d :: rest))
    (hunit : (if rest.isEmpty then none else unit? a b c d) = some unit) :
    ∀ e ∈ done.head?, e.pairs (.ofNat unit) = false := by
  intro e he
  refine Bool.eq_false_iff.2 fun hpairs => ?_
  unfold CodePoint.pairs at hpairs
  split at hpairs
  · rename_i m n hlow
    have hhigh : isHighHalf (CodePoint.high m).toNat = true := by
      rw [isHighHalf, CodePoint.toNat, Bool.and_eq_true, decide_eq_true_iff, decide_eq_true_iff]
      omega
    have hlow : isLowHalf unit = true := by
      rw [isLowHalf, Bool.and_eq_true, decide_eq_true_iff, decide_eq_true_iff]
      by_contra hnot
      unfold CodePoint.ofNat at hlow
      rw [if_neg hnot] at hlow
      split at hlow
      · cases hlow
      · cases hlow
    have halone := h m he
    cases rest with
    | nil => cases hunit
    | cons f rest =>
      rw [List.isEmpty_cons, if_neg Bool.false_ne_true] at hunit
      simp only [pairOf, hhigh, if_true, hunit, hlow] at halone
      cases halone
  · cases hpairs

theorem pairs_char (e : CodePoint) (c : Char) : e.pairs (.char c) = false := by
  cases e <;> rfl

theorem length_of_pair {unit low : Nat} {rest : List CodePoint}
    (h : pairOf unit rest = .pair low) : 7 ≤ rest.length := by
  unfold pairOf at h
  split at h
  · simp only [List.length_cons]
    omega
  · cases h

theorem unpaired_readText {start : Nat} {done cs rest : List CodePoint} {t : Text}
    (hcs : Text.Whole cs) (hdone : done.IsChain fun b a => a.pairs b = false)
    (halone : Alone done cs) (h : readText start done cs = .ok (t, rest)) : t.Unpaired := by
  fun_induction readText start done cs with
  | case1 | case3 | case4 | case8 | case9 | case11 | case12 => cases h
  | case2 =>
    cases h
    exact List.isChain_reverse.2 hdone
  | case5 done a b c d unread unit hunit hpair ih =>
    have hunread : Text.Whole unread := fun p hp =>
      hcs p (List.mem_append_right [_, _, a, b, c, d] hp)
    exact ih hunread (List.isChain_cons.2 ⟨halone.pairs_unit hunit, hdone⟩)
      (alone_unit hpair done) h
  | case6 done a b c d unit low e f i j k l unread hunit hpair ih =>
    have hunread : Text.Whole unread := fun p hp =>
      hcs p (List.mem_append_right [_, _, a, b, c, d, e, f, i, j, k, l] hp)
    exact ih hunread (List.isChain_cons.2 ⟨fun e _ => pairs_char e _, hdone⟩)
      (alone_char _ done unread) h
  | case7 done a b c d unit low unread hshort hunit hpair ih =>
    obtain _ | ⟨e, _ | ⟨f, _ | ⟨i, _ | ⟨j, _ | ⟨k, _ | ⟨l, unread⟩⟩⟩⟩⟩⟩ := unread
    all_goals
      have hlength := length_of_pair hpair
      simp only [List.length_nil, List.length_cons] at hlength
    all_goals first | omega | exact absurd rfl (hshort e f i j k l unread)
  | case10 done c unread _ _ _ _ ih =>
    have hunread : Text.Whole unread := fun p hp => hcs p (List.mem_append_right [_, c] hp)
    exact ih hunread (List.isChain_cons.2 ⟨fun e _ => pairs_char e _, hdone⟩)
      (alone_char _ done unread) h
  | case13 done p unread _ _ _ _ _ _ ih =>
    obtain ⟨hp, hunread⟩ := List.forall_mem_cons.1 hcs
    cases p with
    | char c =>
      exact ih hunread (List.isChain_cons.2 ⟨fun e _ => pairs_char e c, hdone⟩)
        (alone_char c done unread) h
    | high n | low n => cases hp

theorem TextOf.unpaired {input : List CodePoint} {t : Text} (hinput : Text.Whole input)
    (h : TextOf input t) : t.Unpaired := by
  obtain ⟨start, cs, rest, hcs, ht⟩ := h
  exact unpaired_readText (fun c hc => hinput c (hcs.subset hc)) .nil nofun ht

theorem not_text_of_readScalar {cs rest : List CodePoint} {a : Scalar}
    (h : readScalar cs = .ok (a, rest)) (t : Text) : a ≠ .text t := by
  rintro rfl
  unfold readScalar at h
  split at h
  case h_7 =>
    unfold readNumber? at h
    dsimp only at h
    split at h
    · cases h
    · rw [Option.getD_some] at h
      split at h
      · split at h
        · cases h
        · cases h
      · cases h
  all_goals cases h

theorem unpaired_read {cs : List CodePoint} {j : Json} (hcs : Text.Whole cs)
    (h : read cs = .ok j) : j.unfolding.EveryText Text.Unpaired := by
  refine Readable.read (P := fun j => j.unfolding.EveryText Text.Unpaired)
    ⟨fun hs => ?_, fun t ht => ?_, fun items hitems => ?_, fun ps hps => ?_⟩ h
  · exact .scalar fun s hs => absurd hs (not_text_of_readScalar ‹_› s)
  · exact .scalar fun s hs => by
      cases hs
      exact ht.unpaired hcs
  · rw [unfolding, unfoldings_eq]
    exact .array (List.forall_mem_map.2 hitems)
  · rw [unfolding]
    refine .object (fun k hk => ?_) ?_
    · rw [keys_memberUnfoldings] at hk
      obtain ⟨p, hp, rfl⟩ := List.mem_map.1 (Entries.mem_keys_ofPairs hk)
      exact (hps p hp).1.unpaired hcs
    · rw [memberUnfoldings_eq]
      have hall := Entries.forall_ofPairs (P := fun j => j.unfolding.EveryText Text.Unpaired)
        fun p hp => (hps p hp).2
      exact List.forall_mem_map.2 hall

end Json
end NodeWalk
