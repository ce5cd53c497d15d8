import Mathlib.Data.List.Induction
import NodeWalk.Document

set_option autoImplicit false

/-!
# Tokens of indices

An index has exactly one numeral among the tokens of the seven-bit character set, its
decimal digits without a leading zero. Other scripts have digits too, so without the
bound on the characters several tokens may name one index.
-/
namespace NodeWalk

namespace Text

theorem digit_bounds {c : Char} (h : c.isDigit = true) : 48 ≤ c.toNat ∧ c.toNat ≤ 57 := by
  simp only [Char.isDigit, Bool.and_eq_true, decide_eq_true_eq, ge_iff_le,
    UInt32.le_iff_toNat_le] at h
  exact h

theorem isDigit_of_lt {c : CodePoint} (hc : c.toNat < 128) : isDigit c = c.isDigit := by
  cases c with
  | char c =>
    have hall : ∀ n, n < 128 → isDigit (Char.ofNat n) = (Char.ofNat n).isDigit := by decide +kernel
    have h := hall c.toNat hc
    rwa [Char.ofNat_toNat] at h
  | high n | low n => simp only [CodePoint.toNat] at hc; omega

theorem exists_chars {ps : List CodePoint} (hd : ∀ c ∈ ps, c.isDigit = true) :
    ∃ cs : List Char, ps = cs.map .char ∧ ∀ c ∈ cs, c.isDigit = true := by
  induction ps with
  | nil => exact ⟨[], rfl, List.forall_mem_nil _⟩
  | cons p ps ih =>
    obtain ⟨hp, hps⟩ := List.forall_mem_cons.1 hd
    obtain ⟨cs, rfl, hcs⟩ := ih hps
    cases p with
    | char c => exact ⟨c :: cs, rfl, List.forall_mem_cons.2 ⟨hp, hcs⟩⟩
    | high n | low n => cases hp

theorem lt_of_isDigit {c : Char} (h : c.isDigit = true) : c.toNat < 128 := by
  have := digit_bounds h
  omega

theorem digitChar_of_isDigit {c : Char} (h : c.isDigit = true) :
    (c.toNat - 48).digitChar = c := by
  have hb := digit_bounds h
  have hall : ∀ n, n < 10 → n.digitChar = Char.ofNat (n + 48) := by decide
  rw [hall _ (by omega), Nat.sub_add_cancel hb.1, Char.ofNat_toNat]

theorem isDigit_of_mem_toString {n : Nat} {c : CodePoint}
    (hc : c ∈ (ofString (toString n)).points) : c.isDigit = true := by
  have hlist : (toString n).toList = Nat.toDigits 10 n := Nat.toList_repr
  rw [points_ofString, hlist] at hc
  obtain ⟨d, hd, rfl⟩ := List.mem_map.1 hc
  exact Nat.isDigit_of_mem_toDigits (by decide) (by decide) hd

theorem head?_toDigits {n : Nat} (hn : n ≠ 0) : (Nat.toDigits 10 n).head? ≠ some '0' := by
  induction n using Nat.strongRecOn with
  | ind n ih =>
    rw [Nat.toDigits_eq_if (by decide)]
    split
    · have hall : ∀ m, m < 10 → m ≠ 0 → m.digitChar ≠ '0' := by decide
      have := hall n (by omega) hn
      simpa using this
    · have ih := ih (n / 10) (by omega) (by omega)
      obtain ⟨c, cs, hcs⟩ := List.exists_cons_of_ne_nil
        (Nat.toDigits_ne_nil : Nat.toDigits 10 (n / 10) ≠ [])
      rw [hcs] at ih ⊢
      simpa using ih

/-- The digits of a number are the only ones without a leading zero that have its value. -/
theorem toDigits_ofDigitChars {cs : List Char} (hne : cs ≠ []) (hd : ∀ c ∈ cs, c.isDigit = true)
    (hz : cs.length = 1 ∨ cs.head? ≠ some '0') :
    Nat.toDigits 10 (Nat.ofDigitChars 10 cs 0) = cs := by
  induction cs using List.reverseRecOn with
  | nil => exact absurd rfl hne
  | append_singleton cs c ih =>
    have hc := hd c (List.mem_append_right _ (List.mem_singleton.2 rfl))
    have hb := digit_bounds hc
    rw [Nat.ofDigitChars_append, Nat.ofDigitChars_cons, Nat.ofDigitChars_nil]
    have hzero : '0'.toNat = 48 := rfl
    rw [hzero]
    cases cs with
    | nil =>
      rw [Nat.ofDigitChars_nil, Nat.toDigits_of_lt_base (by omega)]
      simp only [Nat.mul_zero, Nat.zero_add, digitChar_of_isDigit hc, List.nil_append]
    | cons d cs =>
      have hhead : (d :: cs).head? ≠ some '0' := by
        rcases hz with hz | hz
        · simp at hz
        · simpa using hz
      have ih := ih (by simp) (fun e he => hd e (List.mem_append_left _ he)) (.inr hhead)
      have hpos : 0 < Nat.ofDigitChars 10 (d :: cs) 0 := by
        rw [Nat.pos_iff_ne_zero]
        intro h0
        rw [h0, Nat.toDigits_zero] at ih
        exact hhead (congrArg List.head? ih.symm)
      have hmod : (10 * Nat.ofDigitChars 10 (d :: cs) 0 + (c.toNat - 48)) % 10 = c.toNat - 48 := by
        omega
      have hdiv : (10 * Nat.ofDigitChars 10 (d :: cs) 0 + (c.toNat - 48)) / 10 =
          Nat.ofDigitChars 10 (d :: cs) 0 := by
        omega
      rw [Nat.toDigits_eq_if (by decide), if_neg (by omega), hmod, hdiv, ih,
        digitChar_of_isDigit hc]

end Text

namespace Numeral

theorem ofPoint_of_isDigit {c : Char} (h : c.isDigit = true) :
    Mark.ofPoint c = .digit (c.toNat - 48) := by
  have hb := Text.digit_bounds h
  have hplain : c.toNat < 0x80 := by omega
  have hblank : Text.isPlainBlank c = false := by
    rw [Text.isPlainBlank, CodePoint.toNat_char]
    simp
    omega
  simp [Mark.ofPoint, hblank, hplain, CodePoint.isDigit, h]

theorem digitRun_digits {ds : List Nat} (h : ds ≠ []) :
    digitRun (ds.map Mark.digit) = some (ds, []) := by
  induction ds with
  | nil => exact absurd rfl h
  | cons d ds ih =>
    cases ds with
    | nil => rfl
    | cons e ds =>
      have ih := ih (by simp)
      simp only [List.map_cons] at ih
      simp [digitRun, ih]

theorem writable_natCast_iff {n : Nat} :
    writable n = true ↔ (Nat.toDigits 10 n).length ≤ maxDigits := by
  rw [Nat.length_toDigits_le_iff (by decide) (by decide)]
  unfold writable
  generalize maxDigits = k
  simp

theorem value_eq_ofDigitChars (cs : List Char) :
    value (cs.map fun c => c.toNat - 48) = Nat.ofDigitChars 10 cs 0 := by
  rw [value, List.foldl_map]
  rfl

theorem read_digits {cs : List Char} (hne : cs ≠ []) (hd : ∀ c ∈ cs, c.isDigit = true) :
    read ⟨cs.map .char⟩ = if cs.length > maxDigits then .error (.tooLong cs.length)
      else .ok (Nat.ofDigitChars 10 cs 0 : Nat) := by
  have hmarks : (cs.map CodePoint.char).map Mark.ofPoint =
      (cs.map fun c => c.toNat - 48).map Mark.digit := by
    rw [List.map_map, List.map_map]
    exact List.map_congr_left fun c hc => ofPoint_of_isDigit (hd c hc)
  have hvalues : (cs.map fun c => c.toNat - 48) ≠ [] := by simpa using hne
  have hrun := digitRun_digits hvalues
  have hsigned : signed (((cs.map fun c => c.toNat - 48).map Mark.digit).dropWhile (· == .blank)) =
      (false, (cs.map fun c => c.toNat - 48).map Mark.digit) := by
    obtain ⟨c, cs, rfl⟩ := List.exists_cons_of_ne_nil hne
    rfl
  simp only [read, hmarks, hsigned, hrun, value_eq_ofDigitChars, List.length_map]
  simp

theorem nonneg_of_read {s : Text} (hd : ∀ c ∈ s.points, Text.isDigit c = true) {n : Int}
    (h : read s = .ok n) : 0 ≤ n := by
  have hminus (c : CodePoint) (hc : Mark.ofPoint c = .minus) : c = '-' := by
    unfold Mark.ofPoint at hc
    grind
  have hsign : (signed ((s.points.map Mark.ofPoint).dropWhile (· == .blank))).1 = false := by
    cases hm : (s.points.map Mark.ofPoint).dropWhile (· == .blank) with
    | nil => rfl
    | cons m ms =>
      have hmem : m ∈ s.points.map Mark.ofPoint :=
        (List.dropWhile_sublist _).subset (hm ▸ List.mem_cons_self)
      obtain ⟨c, hc, rfl⟩ := List.mem_map.1 hmem
      cases hm' : Mark.ofPoint c with
      | minus =>
        obtain rfl := hminus c hm'
        exact absurd (hd _ hc) (by decide)
      | _ => rfl
  unfold read at h
  rw [← Prod.eta (signed _), hsign] at h
  dsimp only at h
  split at h
  · cases h
  · split at h
    · cases h
    · split at h
      · cases h
        exact Int.natCast_nonneg _
      · cases h

end Numeral

namespace Document

structure Names (token : Text) (i : Nat) : Prop where
  index : isIndex token = true
  read : Numeral.read token = .ok i

theorem isIndex_iff {token : Text} : isIndex token = true ↔ token.points ≠ [] ∧
    (∀ c ∈ token.points, Text.isDigit c = true) ∧
      (token.points.length = 1 ∨ token.points.head? ≠ some (.char '0')) := by
  simp [isIndex, and_assoc]

theorem Names.unique {token : Text} {i j : Nat} (h : Names token i) (h' : Names token j) :
    i = j := Int.ofNat_inj.1 (Except.ok.inj (h.read.symm.trans h'.read))

theorem not_names_dash (i : Nat) : ¬ Names "-" i := by
  intro h
  have hdash : isIndex "-" = false := by decide +kernel
  exact absurd h.index (by simp [hdash])

theorem index_of_names {token : Text} {m : Nat} (h : Names token m) (path : Text)
    (length : Nat) (append : Bool) : index path length token append =
      if m < (if append then length + 1 else length) then .ok m
      else .error (.path path (.outOfRange m)) := by
  have hdash : token ≠ "-" := by
    rintro rfl
    exact not_names_dash m h
  have hlt : (m : Int) < length + 1 ↔ m < length + 1 := by omega
  cases append <;> simp [index, hdash, h.index, h.read, hlt]

theorem index_of_not_names {token : Text} (h : ∀ m, ¬ Names token m) (path : Text)
    {append : Bool} (hdash : ¬ (append = true ∧ token = "-")) :
    ∃ f, ∀ length, index path length token append = .error f := by
  have hcond : (append && token = "-") = false := by simpa using hdash
  by_cases hi : isIndex token = true
  · cases hr : Numeral.read token with
    | error r => cases r <;> exact ⟨_, fun length => by simp [index, hcond, hi, hr]; rfl⟩
    | ok n =>
      obtain ⟨m, rfl⟩ := Int.eq_ofNat_of_zero_le
        (Numeral.nonneg_of_read (isIndex_iff.1 hi).2.1 hr)
      exact absurd ⟨hi, hr⟩ (h m)
  · exact ⟨.path path (.badIndex token), fun length => by simp [index, hcond, hi]⟩

/-- A place in an array is named by its index. A write may also go to the place behind
the last, and call it a dash. -/
theorem index_ok_iff {path token : Text} {length i : Nat} {append : Bool} :
    index path length token append = .ok i ↔
      (append = true ∧ token = "-" ∧ i = length) ∨
        Names token i ∧ i < if append then length + 1 else length := by
  by_cases hdash : append = true ∧ token = "-"
  · obtain ⟨rfl, rfl⟩ := hdash
    simp [index, not_names_dash, eq_comm]
  · have hleft : ¬ (append = true ∧ token = "-" ∧ i = length) := fun h => hdash ⟨h.1, h.2.1⟩
    rw [or_iff_right hleft]
    by_cases h : ∃ m, Names token m
    · obtain ⟨m, hm⟩ := h
      have hi : Names token i ↔ m = i := ⟨hm.unique, fun he => he ▸ hm⟩
      rw [index_of_names hm, hi]
      by_cases hlt : m < if append then length + 1 else length
      · rw [if_pos hlt, Except.ok.injEq]
        exact ⟨fun he => ⟨he, he ▸ hlt⟩, And.left⟩
      · rw [if_neg hlt]
        constructor
        · intro he
          cases he
        · rintro ⟨rfl, hi⟩
          exact absurd hi hlt
    · rw [not_exists] at h
      obtain ⟨f, hf⟩ := index_of_not_names h path hdash
      simp [hf, h]

/-- An array with one more item reads all tokens as before but the one of its new place. -/
theorem index_succ {token : Text} {length : Nat} (h : ¬ Names token length) (path : Text) :
    index path (length + 1) token false = index path length token false := by
  by_cases hm : ∃ m, Names token m
  · obtain ⟨m, hm⟩ := hm
    have hne : m ≠ length := by
      rintro rfl
      exact h hm
    have hiff : m < length + 1 ↔ m < length := by omega
    simp only [index_of_names hm, Bool.false_eq_true, if_false, hiff]
  · rw [not_exists] at hm
    have hreading : ¬ (false = true ∧ token = "-") := by simp
    obtain ⟨f, hf⟩ := index_of_not_names hm path hreading
    rw [hf, hf]

theorem names_toString {n : Nat} (hn : Numeral.writable n = true) : Names (toString n) n := by
  have hpoints : (Text.ofString (toString n)).points = (Nat.toDigits 10 n).map .char :=
    congrArg (List.map CodePoint.char) Nat.toList_repr
  have hd : ∀ c ∈ Nat.toDigits 10 n, c.isDigit = true := fun _ hc =>
    Nat.isDigit_of_mem_toDigits (by decide) (by decide) hc
  refine ⟨isIndex_iff.2 ⟨?_, ?_, ?_⟩, ?_⟩
  · rw [hpoints, Ne, List.map_eq_nil_iff]
    exact Nat.toDigits_ne_nil
  · rw [hpoints]
    refine List.forall_mem_map.2 fun c hc => ?_
    rw [Text.isDigit_of_lt (c := .char c) (Text.lt_of_isDigit (hd c hc))]
    exact hd c hc
  · rw [hpoints]
    rcases Nat.eq_zero_or_pos n with rfl | hpos
    · exact .inl rfl
    · refine .inr fun hhead => Text.head?_toDigits (Nat.ne_of_gt hpos) ?_
      rw [List.head?_map, Option.map_eq_some_iff] at hhead
      obtain ⟨c, hc, hzero⟩ := hhead
      rw [hc, CodePoint.char.inj hzero]
  · have hlen : ¬ (Nat.toDigits 10 n).length > Numeral.maxDigits := by
      rw [gt_iff_lt, Nat.not_lt]
      exact Numeral.writable_natCast_iff.1 hn
    rw [Text.ext hpoints, Numeral.read_digits Nat.toDigits_ne_nil hd, if_neg hlen,
      Nat.ofDigitChars_ten_toDigits]

theorem eq_toString_of_names {token : Text} {i : Nat} (h : Names token i)
    (hascii : ∀ c ∈ token.points, c.toNat < 128) : token = toString i := by
  obtain ⟨hne, hdigits, hz⟩ := isIndex_iff.1 h.index
  obtain ⟨cs, hcs, hd⟩ := Text.exists_chars fun c hc => by
    rw [← Text.isDigit_of_lt (hascii c hc)]
    exact hdigits c hc
  have hread := h.read
  obtain rfl : token = ⟨cs.map .char⟩ := Text.ext hcs
  replace hne : cs ≠ [] := by simpa using hne
  replace hz : cs.length = 1 ∨ cs.head? ≠ some '0' := by
    rw [List.length_map, List.head?_map] at hz
    exact hz.imp_right fun hhead hzero => hhead (congrArg (Option.map CodePoint.char) hzero)
  rw [Numeral.read_digits hne hd] at hread
  split at hread
  · cases hread
  · have hi : Nat.ofDigitChars 10 cs 0 = i := Int.ofNat_inj.1 (Except.ok.inj hread)
    refine Text.ext (congrArg (List.map CodePoint.char) ?_)
    calc
      cs = Nat.toDigits 10 (Nat.ofDigitChars 10 cs 0) :=
        (Text.toDigits_ofDigitChars hne hd hz).symm
      _ = (toString i).toList := by rw [hi]; exact Nat.toList_repr.symm

end Document
end NodeWalk
