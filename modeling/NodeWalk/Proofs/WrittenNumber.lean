import NodeWalk.Json.Writer
import NodeWalk.Proofs.NumberText

set_option autoImplicit false

/-!
# Written numbers

Each layout of a decimal is a `NumberText` of the same value, so a number that is written is
read again as it was. Of what is not a number only that it is none is read again.
-/
namespace NodeWalk

def Binary64.readBack (x : Binary64) : Binary64 := if x.isNaN then .nan 0 else ⟨x.bits, 0⟩

namespace Json

variable {cs rest : List Char}

structure Leading (cs : List Char) : Prop where
  ne_nil : cs ≠ []
  digits : ∀ c ∈ cs, c.isDigit = true
  lead : cs.head? ≠ some '0'

theorem leading_toDigits {n : ℕ} (hn : n ≠ 0) : Leading (Nat.toDigits 10 n) where
  ne_nil := Nat.toDigits_ne_nil
  digits _ hc := Nat.isDigit_of_mem_toDigits (by decide) (by decide) hc
  lead := Text.head?_toDigits hn

theorem isDigit_of_mem_zeros {n : ℕ} {c : Char} (h : c ∈ List.replicate n '0') :
    c.isDigit = true := by
  rw [List.eq_of_mem_replicate h]
  decide

/-- The text is one of the number and denotes this decimal. -/
structure NumberText.Denotes (t : NumberText) (d : Decimal) : Prop where
  proper : t.Proper
  value : t.decimal.value = d.value

theorem NumberText.chars_pointed {whole fraction : List Char} (h : fraction ≠ []) :
    (NumberText.mk whole fraction none).chars = whole ++ '.' :: fraction := by
  rw [chars, point, if_neg h]
  exact congrArg (whole ++ ·) (List.append_nil _)

namespace Leading

variable (h : Leading cs)

include h

theorem denotes_before (k : ℕ) : NumberText.Denotes ⟨['0'], List.replicate k '0' ++ cs, none⟩
    ⟨Nat.ofDigitChars 10 cs 0, -(k + cs.length : ℤ)⟩ where
  proper := by
    refine ⟨List.cons_ne_nil _ _, .inl rfl, fun c hc => ?_, fun _ he => (nomatch he), .inl ?_⟩
    · obtain hc | hc := List.mem_append.1 hc
      · rw [List.mem_singleton.1 hc]
        decide
      · exact (List.mem_append.1 hc).elim isDigit_of_mem_zeros (h.digits c)
    · exact List.append_ne_nil_of_right_ne_nil _ h.ne_nil
  value := by
    have hdigits : Nat.ofDigitChars 10 (['0'] ++ (List.replicate k '0' ++ cs)) 0 =
        Nat.ofDigitChars 10 cs 0 := by
      rw [List.singleton_append, Nat.ofDigitChars_cons, Nat.ofDigitChars_append,
        Nat.ofDigitChars_replicate_zero]
      rfl
    rw [NumberText.decimal, NumberText.digits, hdigits, List.length_append, List.length_replicate,
      Nat.cast_add]
    congr 2
    simp

theorem denotes_behind (k : ℕ) : NumberText.Denotes ⟨cs ++ List.replicate k '0', ['0'], none⟩
    ⟨Nat.ofDigitChars 10 cs 0, k⟩ where
  proper := by
    refine ⟨List.append_ne_nil_of_left_ne_nil h.ne_nil _, .inr ?_, fun c hc => ?_,
      fun _ he => (nomatch he), .inl (List.cons_ne_nil _ _)⟩
    · rw [List.head?_append_of_ne_nil _ h.ne_nil]
      exact h.lead
    · obtain hc | hc := List.mem_append.1 hc
      · exact (List.mem_append.1 hc).elim (h.digits c) isDigit_of_mem_zeros
      · rw [List.mem_singleton.1 hc]
        decide
  value := by
    have hdigits : Nat.ofDigitChars 10 ((cs ++ List.replicate k '0') ++ ['0']) 0 =
        10 ^ (k + 1) * Nat.ofDigitChars 10 cs 0 := by
      rw [List.append_assoc, ← List.replicate_succ', Nat.ofDigitChars_append,
        Nat.ofDigitChars_replicate_zero]
    have hshift : (10 : ℚ) ^ k = 10 ^ (k + 1) * 10 ^ (-1 : ℤ) := by
      rw [pow_succ, zpow_neg_one, mul_inv_cancel_right₀ (by norm_num)]
    simp only [Decimal.value, NumberText.decimal, NumberText.digits, hdigits, zpow_natCast, hshift]
    change _ * (10 : ℚ) ^ (-1 : ℤ) = _
    push_cast
    ring

theorem denotes_inside {k : ℕ} (hk : 0 < k) (hlt : k < cs.length) :
    NumberText.Denotes ⟨cs.take k, cs.drop k, none⟩
      ⟨Nat.ofDigitChars 10 cs 0, k - cs.length⟩ where
  proper := by
    refine ⟨?_, .inr ?_, ?_, fun _ he => (nomatch he), .inl ?_⟩
    · simp [h.ne_nil, hk.ne']
    · rw [List.head?_take, if_neg hk.ne']
      exact h.lead
    · rw [List.take_append_drop]
      exact h.digits
    · simpa using hlt
  value := by
    have hlength : (0 : ℤ) - ((cs.drop k).length : ℕ) = k - cs.length := by
      rw [List.length_drop]
      omega
    rw [NumberText.decimal, NumberText.digits, List.take_append_drop]
    exact congrArg (Decimal.value ⟨_, ·⟩) hlength

theorem denotes_scientific (negative : Bool) (m : ℕ) (p : ℕ) :
    NumberText.Denotes
      ⟨cs.take 1, cs.drop 1, some (negative, List.replicate m '0' ++ Nat.toDigits 10 p)⟩
      ⟨Nat.ofDigitChars 10 cs 0, (if negative then -p else p : ℤ) - (cs.length - 1)⟩ where
  proper := by
    refine ⟨?_, .inr ?_, ?_, ?_, .inr (Option.some_ne_none _)⟩
    · simp [h.ne_nil]
    · rw [List.head?_take, if_neg Nat.one_ne_zero]
      exact h.lead
    · rw [List.take_append_drop]
      exact h.digits
    · rintro e ⟨⟩
      refine ⟨List.append_ne_nil_of_right_ne_nil _ Nat.toDigits_ne_nil, fun c hc => ?_⟩
      exact (List.mem_append.1 hc).elim isDigit_of_mem_zeros fun hc =>
        Nat.isDigit_of_mem_toDigits (by decide) (by decide) hc
  value := by
    have hpos := List.length_pos_iff.2 h.ne_nil
    have hpower : Nat.ofDigitChars 10 (List.replicate m '0' ++ Nat.toDigits 10 p) 0 = p := by
      rw [Nat.ofDigitChars_append, Nat.ofDigitChars_replicate_zero, Nat.mul_zero,
        Nat.ofDigitChars_ten_toDigits]
    have hlength : ((cs.drop 1).length : ℤ) = cs.length - 1 := by
      rw [List.length_drop]
      omega
    simp only [NumberText.decimal, NumberText.digits, List.take_append_drop, Option.map_some,
      Option.getD_some, NumberText.exponentValue, hpower, hlength]

end Leading

end Json

namespace Decimal

open Json (NumberText Leading)

variable {d : Decimal}

theorem toList_zeros (n : ℕ) : (zeros n).toList = List.replicate n '0' := String.toList_ofList

theorem exists_plain {s : String} (hs : Leading s.toList) {lead : ℤ} :
    ∃ t : NumberText, (plain s lead).toList = t.chars ∧
      t.Denotes ⟨Nat.ofDigitChars 10 s.toList 0, lead + 1 - s.length⟩ := by
  have hlength : s.toList.length = s.length := String.length_toList
  unfold plain
  dsimp only
  split
  · have ht := hs.denotes_before (-lead - 1).toNat
    have hexponent : -(((-lead - 1).toNat : ℤ) + s.toList.length) = lead + 1 - s.length := by omega
    rw [hexponent] at ht
    refine ⟨_, ?_, ht⟩
    rw [NumberText.chars_pointed (List.append_ne_nil_of_right_ne_nil _ hs.ne_nil),
      String.toList_append, String.toList_append, toList_zeros]
    rfl
  · split
    · have ht := hs.denotes_behind (lead.toNat + 1 - s.length)
      have hexponent : ((lead.toNat + 1 - s.length : ℕ) : ℤ) = lead + 1 - s.length := by omega
      rw [hexponent] at ht
      refine ⟨_, ?_, ht⟩
      rw [NumberText.chars_pointed (List.cons_ne_nil _ _), String.toList_append,
        String.toList_append, toList_zeros]
      rfl
    · have ht := hs.denotes_inside (k := lead.toNat + 1) (Nat.succ_pos _) (by omega)
      have hexponent : ((lead.toNat + 1 : ℕ) : ℤ) - s.toList.length = lead + 1 - s.length := by
        omega
      rw [hexponent] at ht
      have hne : s.toList.drop (lead.toNat + 1) ≠ [] := by
        rw [ne_eq, List.drop_eq_nil_iff]
        omega
      refine ⟨_, ?_, ht⟩
      rw [NumberText.chars_pointed hne]
      simp only [String.toList_append, String.toList_ofList, List.append_assoc]
      rfl

theorem exists_scientific {s : String} (hs : Leading s.toList) {lead : ℤ} :
    ∃ t : NumberText, (scientific s lead).toList = t.chars ∧
      t.Denotes ⟨Nat.ofDigitChars 10 s.toList 0, lead + 1 - s.length⟩ := by
  have hlength : s.toList.length = s.length := String.length_toList
  have ht := hs.denotes_scientific (decide (lead < 0)) (2 - (toString lead.natAbs).length)
    lead.natAbs
  have hexponent : (if decide (lead < 0) then -(lead.natAbs : ℤ) else lead.natAbs) -
      (s.toList.length - 1) = lead + 1 - s.length := by
    by_cases hneg : lead < 0
    · rw [decide_eq_true hneg, if_pos rfl]
      omega
    · rw [decide_eq_false hneg, if_neg Bool.false_ne_true]
      omega
  rw [hexponent] at ht
  have hpoint : (if (String.ofList (s.toList.drop 1)).isEmpty then ""
      else "." ++ String.ofList (s.toList.drop 1)).toList =
        if s.toList.drop 1 = [] then [] else '.' :: s.toList.drop 1 := by
    cases s.toList.drop 1 with
    | nil => rfl
    | cons c cs => simp
  have hsign : (if lead < 0 then "-" else "+").toList = [Json.exponentSign (lead < 0)] := by
    by_cases hneg : lead < 0
    · rw [if_pos hneg, decide_eq_true hneg]
      rfl
    · rw [if_neg hneg, decide_eq_false hneg]
      rfl
  have hpower : (toString lead.natAbs).toList = Nat.toDigits 10 lead.natAbs := Nat.toList_repr
  refine ⟨_, ?_, ht⟩
  simp only [scientific, String.toList_append, String.toList_ofList, toList_zeros, hpoint, hsign,
    hpower, List.append_assoc]
  rfl

theorem exists_layout (hd : d.digits ≠ 0) :
    ∃ t : NumberText, d.layout.toList = t.chars ∧ t.Denotes d := by
  have hlist : (toString d.digits).toList = Nat.toDigits 10 d.digits := Nat.toList_repr
  have hs : Leading (toString d.digits).toList := hlist ▸ Json.leading_toDigits hd
  have hdecimal : d = ⟨Nat.ofDigitChars 10 (toString d.digits).toList 0,
      (d.exponent + (toString d.digits).length - 1) + 1 - (toString d.digits).length⟩ := by
    rw [hlist, Nat.ofDigitChars_ten_toDigits, sub_add_cancel, add_sub_cancel_right]
  unfold layout
  dsimp only
  split
  · obtain ⟨t, hchars, ht⟩ := exists_plain hs
    exact ⟨t, hchars, hdecimal ▸ ht⟩
  · obtain ⟨t, hchars, ht⟩ := exists_scientific hs
    exact ⟨t, hchars, hdecimal ▸ ht⟩

end Decimal

namespace Binary64

variable {x : Binary64}

theorem ofDecimal_zero (hzero : x.isZero = true) (exponent : ℤ) :
    ofDecimal x.negative 0 exponent = ⟨x.bits, 0⟩ := by
  rw [isZero, Bool.and_eq_true, beq_iff_eq, beq_iff_eq] at hzero
  have hparts : x.power * 2 ^ 52 + x.significand = 0 := by
    simp [power, significand, hzero.1, hzero.2]
  rw [← x.ofMagnitude_parts, hparts]
  rfl

theorem infinity_negative (hinf : x.isInfinite = true) : infinity x.negative = ⟨x.bits, 0⟩ := by
  rw [isInfinite, Bool.and_eq_true, beq_iff_eq, beq_iff_eq] at hinf
  have hparts : x.power * 2 ^ 52 + x.significand = infinityBits := by
    simp [power, significand, hinf.1, hinf.2, infinityBits]
  rw [← x.ofMagnitude_parts, hparts]
  cases x.negative with
  | false => rfl
  | true => rfl

theorem exponentField_ne (hnan : x.isNaN = false) (hinf : x.isInfinite = false) :
    x.exponentField ≠ 0x7FF := by
  intro h
  simp only [isNaN, isInfinite, h, beq_self_eq_true, Bool.true_and, bne_eq_false_iff_eq,
    beq_eq_false_iff_ne] at hnan hinf
  exact hinf hnan

theorem exists_numberText (hnan : x.isNaN = false) (hinf : x.isInfinite = false) :
    ∃ t : Json.NumberText, t.Proper ∧
      (x.write .document).toList = Json.signed x.negative t.chars ∧
      ofDecimal x.negative t.decimal.digits t.decimal.exponent = ⟨x.bits, 0⟩ := by
  rw [write, hnan, hinf, if_neg Bool.false_ne_true, if_neg Bool.false_ne_true, Json.toList_sign]
  cases hzero : x.isZero with
  | true =>
    rw [if_pos rfl]
    exact ⟨⟨['0'], ['0'], none⟩, ⟨List.cons_ne_nil _ _, .inl rfl, List.all_eq_true.1 rfl,
      fun _ he => (nomatch he), .inl (List.cons_ne_nil _ _)⟩, rfl, ofDecimal_zero hzero _⟩
  | false =>
    rw [if_neg Bool.false_ne_true]
    obtain ⟨t, hchars, ht⟩ :=
      Decimal.exists_layout (Magnitude.digits_shortest_ne_zero (x := .ofBinary64 x)
        (significand_pos hzero))
    exact ⟨t, ht.proper, congrArg _ hchars,
      ofDecimal_shortest (exponentField_ne hnan hinf) hzero ht.value⟩

end Binary64

namespace Json

variable {cs : List Char} {rest : List CodePoint}

theorem readScalar_signed (negative : Bool) {c : Char} (hc : c.isDigit = true) :
    readScalar ((signed negative (c :: cs)).map .char ++ rest) =
      (readNumber? ((signed negative (c :: cs)).map .char ++ rest)).getD (.error
        (.malformed .valueExpected
          ((signed negative (c :: cs)).map CodePoint.char ++ rest).length)) := by
  have hsigned : (signed negative (c :: cs)).map .char ++ rest =
      if negative then .char '-' :: .char c :: (cs.map .char ++ rest)
        else .char c :: (cs.map .char ++ rest) := by
    cases negative with
    | false => rfl
    | true => rfl
  rw [hsigned]
  generalize cs.map .char ++ rest = behind
  unfold readScalar
  split
  case h_7 => rfl
  all_goals
    rename_i heq
    cases negative <;> cases heq <;> exact absurd hc (by decide)

theorem readScalar_float (x : Binary64) (hrest : Ends rest) :
    readScalar ((x.write .document).toList.map .char ++ rest) = .ok (.float x.readBack, rest) := by
  cases hnan : x.isNaN with
  | true =>
    have hname : (x.write .document).toList = ['N', 'a', 'N'] := by
      rw [Binary64.write, hnan, if_pos rfl]
      rfl
    rw [hname, Binary64.readBack, hnan]
    rfl
  | false =>
    rw [Binary64.readBack, hnan, if_neg Bool.false_ne_true]
    cases hinf : x.isInfinite with
    | true =>
      have hname : (x.write .document).toList =
          signed x.negative ['I', 'n', 'f', 'i', 'n', 'i', 't', 'y'] := by
        rw [Binary64.write, hnan, hinf, if_neg Bool.false_ne_true, if_pos rfl, toList_sign]
        rfl
      rw [hname, ← Binary64.infinity_negative hinf]
      cases x.negative with
      | false => rfl
      | true => rfl
    | false =>
      obtain ⟨t, ht, hwrite, hvalue⟩ := Binary64.exists_numberText hnan hinf
      obtain ⟨c, cs, hc, hcs⟩ := ht.exists_cons
      have hread := ht.readNumber? x.negative hrest
      rw [hvalue, hcs] at hread
      rw [hwrite, hcs, readScalar_signed _ hc, hread]
      rfl

theorem toList_int (n : ℤ) :
    (toString n).toList = signed (n < 0) (Nat.toDigits 10 n.natAbs) := by
  have hsplit : toString n = (if decide (n < 0) then "-" else "") ++ n.natAbs.repr := by
    cases n with
    | ofNat m => exact String.empty_append.symm
    | negSucc m =>
      rw [decide_eq_true (Int.negSucc_lt_zero m)]
      rfl
  rw [hsplit, toList_sign, Nat.toList_repr]

theorem readScalar_int {n : ℤ} (hn : Numeral.writable n = true) (hrest : Ends rest) :
    readScalar ((toString n).toList.map .char ++ rest) = .ok (.int n, rest) := by
  have hdigit : ∀ c ∈ Nat.toDigits 10 n.natAbs, c.isDigit = true :=
    fun c hc => Nat.isDigit_of_mem_toDigits (by decide) (by decide) hc
  have hlead : Nat.toDigits 10 n.natAbs = ['0'] ∨ (Nat.toDigits 10 n.natAbs).head? ≠ some '0' := by
    by_cases hzero : n.natAbs = 0
    · exact .inl (by rw [hzero]; rfl)
    · exact .inr (Text.head?_toDigits hzero)
  have hends := hrest.not_mem_number
  have hwhole := wholePart?_append Nat.toDigits_ne_nil hdigit hlead fun c hc => (hends c hc).1
  have hlength : (Nat.toDigits 10 n.natAbs).length ≤ Numeral.maxDigits := by
    rw [← Numeral.writable_natCast_iff, ← hn]
    rfl
  obtain ⟨c, cs, hcs⟩ := List.exists_cons_of_ne_nil
    (Nat.toDigits_ne_nil : Nat.toDigits 10 n.natAbs ≠ [])
  have hc : c.isDigit = true := hdigit c (hcs ▸ List.mem_cons_self)
  rw [hcs] at hwhole
  have hread := readNumber?_signed (n < 0) hc hwhole
    (fractionPart_of_head fun c hc => (hends c hc).2.1)
    (exponentPart_of_head fun c hc => (hends c hc).2.2)
  have hvalue : (if decide (n < 0) then -(n.natAbs : ℤ) else n.natAbs) = n := by
    split
    · have := of_decide_eq_true ‹_›
      omega
    · have := of_decide_eq_false (Bool.eq_false_of_not_eq_true ‹_›)
      omega
  rw [List.isEmpty_nil, Option.isNone_none, Bool.and_self, if_pos rfl, List.length_map,
    if_neg (Nat.not_lt.2 (hcs ▸ hlength)), Numeral.value_eq_ofDigitChars, ← hcs,
    Nat.ofDigitChars_ten_toDigits, hvalue] at hread
  rw [toList_int]
  rw [hcs] at hread ⊢
  rw [readScalar_signed _ hc, hread]
  rfl

end Json

def Scalar.readBack : Scalar → Scalar
  | .float x => .float x.readBack
  | a => a

namespace Json

variable {rest : List CodePoint}

theorem readScalar_document {a : Scalar} {t : String} (h : a.document? = some t)
    (htext : ∀ s, a ≠ .text s) (hrest : Ends rest) :
    readScalar (t.toList.map .char ++ rest) = .ok (a.readBack, rest) := by
  cases a with
  | null =>
    cases h
    rfl
  | bool b =>
    cases h
    cases b with
    | false => rfl
    | true => rfl
  | int n =>
    simp only [Scalar.document?, Numeral.write?] at h
    split at h
    · cases h
      exact readScalar_int ‹_› hrest
    · cases h
  | float x =>
    cases h
    exact readScalar_float x hrest
  | text s => exact absurd rfl (htext s)

end Json

end NodeWalk
