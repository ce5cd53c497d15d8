import Mathlib.Tactic.Ring
import NodeWalk.Number.Binary64

set_option autoImplicit false

/-!
# Nearest numbers

The sign, the power and the significand of a floating-point number are all of its bits. A
ratio in the interval of reals that are nearest to a number is rounded to that number: at a
power of two the interval reaches into the half units below, and rounding carries.
-/
namespace NodeWalk.Binary64

section

variable (x : Binary64)

theorem negative_iff : x.negative = true ↔ 2 ^ 63 ≤ x.bits.toNat := by
  have hlt := x.bits.toNat_lt
  have hshift : (x.bits >>> 63).toNat = x.bits.toNat / 2 ^ 63 := by
    rw [UInt64.toNat_shiftRight]
    exact Nat.shiftRight_eq_div_pow _ _
  rw [negative, bne_iff_ne, ne_eq, ← UInt64.toNat_inj, hshift]
  have hzero : (0 : UInt64).toNat = 0 := rfl
  rw [hzero]
  omega

theorem exponentField_eq : x.exponentField = x.bits.toNat / 2 ^ 52 % 2 ^ 11 := by
  have hmask : (0x7FF : UInt64).toNat = 2 ^ 11 - 1 := rfl
  have hshift : (x.bits >>> 52).toNat = x.bits.toNat / 2 ^ 52 := by
    rw [UInt64.toNat_shiftRight]
    exact Nat.shiftRight_eq_div_pow _ _
  rw [exponentField, UInt64.toNat_and, hmask, Nat.and_two_pow_sub_one_eq_mod, hshift]

theorem fraction_eq : x.fraction = x.bits.toNat % 2 ^ 52 := by
  have hmask : (0xFFFFFFFFFFFFF : UInt64).toNat = 2 ^ 52 - 1 := rfl
  rw [fraction, UInt64.toNat_and, hmask, Nat.and_two_pow_sub_one_eq_mod]

theorem ofMagnitude_parts :
    ofMagnitude x.negative (x.power * 2 ^ 52 + x.significand) = ⟨x.bits, 0⟩ := by
  have hlt := x.bits.toNat_lt
  have hfield := x.exponentField_eq
  have hfraction := x.fraction_eq
  have hparts : x.power * 2 ^ 52 + x.significand = x.exponentField * 2 ^ 52 + x.fraction := by
    by_cases hzero : x.exponentField = 0
    · simp [power, significand, hzero]
    · simp only [power, significand, beq_iff_eq, hzero, if_false, Nat.pow_eq]
      omega
  have hbits : (if x.negative then Nat.pow 2 63 else 0) +
      (x.power * 2 ^ 52 + x.significand) = x.bits.toNat := by
    rw [hparts, Nat.pow_eq]
    split
    · have := x.negative_iff.1 ‹_›
      omega
    · have := mt x.negative_iff.2 ‹_›
      omega
  rw [ofMagnitude, hbits, UInt64.ofNat_toNat]

end

theorem roundRatio_eq {num den n : Nat} (hden : 0 < den)
    (hlow : 2 * (n * den) ≤ 2 * num + den) (hhigh : 2 * num ≤ 2 * (n * den) + den)
    (htie : n % 2 = 1 → 2 * (n * den) < 2 * num + den ∧ 2 * num < 2 * (n * den) + den) :
    roundRatio num den = n := by
  have hnum := Nat.div_add_mod' num den
  have hmod := Nat.mod_lt num hden
  unfold roundRatio
  generalize num / den = count at hnum ⊢
  generalize num % den = left at hnum hmod ⊢
  have hle : count ≤ n := by
    by_contra hlt
    have := Nat.mul_le_mul_right den (Nat.lt_of_not_le hlt)
    rw [Nat.succ_mul] at this
    omega
  have hge : n ≤ count + 1 := by
    by_contra hlt
    have := Nat.mul_le_mul_right den (Nat.lt_of_not_le hlt)
    rw [Nat.succ_mul, Nat.succ_mul] at this
    omega
  obtain rfl | rfl : n = count ∨ n = count + 1 := by omega
  · obtain hlt | heq | hgt := Nat.lt_trichotomy (2 * left) den
    · rw [Nat.compare_eq_lt.2 hlt]
    · rw [Nat.compare_eq_eq.2 heq]
      dsimp only
      omega
    · omega
  · have hsucc := Nat.succ_mul count den
    rw [Nat.succ_eq_add_one] at hsucc
    obtain hlt | heq | hgt := Nat.lt_trichotomy (2 * left) den
    · omega
    · rw [Nat.compare_eq_eq.2 heq]
      dsimp only
      omega
    · rw [Nat.compare_eq_gt.2 hgt]

/-- The lower end of the reals nearest to a number, in quarters of its unit. The neighbour
below a power of two is only half as far away. -/
def lowEnd (significand power : Nat) : Nat :=
  if significand = 2 ^ 52 ∧ power ≠ 0 then 4 * significand - 1 else 4 * significand - 2

/-- The ratio lies among the reals that are nearest to the number of this significand and
power, on the scale of `Position`. Only an even significand has the two ends. -/
structure Rounds (significand power scaled den : Nat) : Prop where
  low : lowEnd significand power * (den * 2 ^ power) ≤ 4 * scaled
  high : 4 * scaled ≤ (4 * significand + 2) * (den * 2 ^ power)
  odd : significand % 2 = 1 → lowEnd significand power * (den * 2 ^ power) < 4 * scaled ∧
    4 * scaled < (4 * significand + 2) * (den * 2 ^ power)

theorem log2_div_eq {scaled den k : Nat} (hden : 0 < den) (hlow : 2 ^ k * den ≤ scaled)
    (hhigh : scaled < 2 ^ (k + 1) * den) : (scaled / den).log2 = k := by
  have hle : 2 ^ k ≤ scaled / den := (Nat.le_div_iff_mul_le hden).2 hlow
  rw [Nat.log2_eq_iff (Nat.pos_iff_ne_zero.1 (Nat.lt_of_lt_of_le (Nat.two_pow_pos k) hle))]
  exact ⟨hle, (Nat.div_lt_iff_lt_mul hden).2 hhigh⟩

variable {scaled den s p : Nat}

/-- Just below a power of two the unit is half as large, and rounding carries. -/
theorem nearestBits_of_carry (hden : 0 < den) (h : Rounds (2 ^ 52) (p + 1) scaled den)
    (hbelow : scaled < 2 ^ 52 * (den * 2 ^ (p + 1))) :
    nearestBits scaled den = min infinityBits (p * 2 ^ 52 + 2 ^ 53) := by
  have hlow := h.low
  have hdouble : den * 2 ^ (p + 1) = 2 * (den * 2 ^ p) := by ring
  rw [lowEnd, if_pos ⟨rfl, Nat.succ_ne_zero p⟩, hdouble] at hlow
  rw [hdouble] at hbelow
  have hlower : 2 ^ (52 + p) * den = 2 ^ 52 * (den * 2 ^ p) := by ring
  have hupper : 2 ^ (52 + p + 1) * den = 2 ^ 53 * (den * 2 ^ p) := by ring
  have hpower : (scaled / den).log2 = 52 + p := log2_div_eq hden (by omega) (by omega)
  have hunit : 0 < den * 2 ^ p := Nat.mul_pos hden (Nat.two_pow_pos p)
  simp only [nearestBits, Nat.pow_eq, hpower, Nat.add_sub_cancel_left]
  rw [roundRatio_eq (n := 2 ^ 53) hunit (by omega) (by omega) (by omega)]

theorem Rounds.within_half (h : Rounds s p scaled den) (hs : 0 < s)
    (hcarry : ¬ ((s = 2 ^ 52 ∧ p ≠ 0) ∧ scaled < s * (den * 2 ^ p))) :
    2 * (s * (den * 2 ^ p)) ≤ 2 * scaled + den * 2 ^ p ∧
      2 * scaled ≤ 2 * (s * (den * 2 ^ p)) + den * 2 ^ p ∧
      (s % 2 = 1 → 2 * (s * (den * 2 ^ p)) < 2 * scaled + den * 2 ^ p ∧
        2 * scaled < 2 * (s * (den * 2 ^ p)) + den * 2 ^ p) := by
  obtain ⟨hlow, hhigh, hodd⟩ := h
  generalize den * 2 ^ p = unit at *
  rw [Nat.add_mul, Nat.mul_assoc] at hhigh hodd
  by_cases hnarrow : s = 2 ^ 52 ∧ p ≠ 0
  · have heven : s % 2 = 0 := by omega
    have hge : s * unit ≤ scaled := by
      by_contra hlt
      exact hcarry ⟨hnarrow, Nat.lt_of_not_le hlt⟩
    omega
  · have hsub : (4 * s - 2) * unit = 4 * (s * unit) - 2 * unit := by
      rw [Nat.sub_mul, Nat.mul_assoc]
    have hle : unit ≤ s * unit := Nat.le_mul_of_pos_left unit hs
    rw [lowEnd, if_neg hnarrow, hsub] at hlow hodd
    omega

theorem Rounds.power_eq (h : Rounds s p scaled den) (hden : 0 < den) (hs : 0 < s)
    (hsize : s < 2 ^ 53) (hnormal : p = 0 ∨ 2 ^ 52 ≤ s)
    (hcarry : ¬ ((s = 2 ^ 52 ∧ p ≠ 0) ∧ scaled < s * (den * 2 ^ p))) :
    (scaled / den).log2 - 52 = p := by
  obtain ⟨hlow, hhigh, -⟩ := h.within_half hs hcarry
  have hunit : 0 < den * 2 ^ p := Nat.mul_pos hden (Nat.two_pow_pos p)
  have hlt : scaled < 2 ^ 53 * (den * 2 ^ p) := by
    have hle := Nat.mul_le_mul_right (den * 2 ^ p) (Nat.succ_le_of_lt hsize)
    rw [Nat.succ_mul] at hle
    omega
  by_cases hp : p = 0
  · subst hp
    have hdiv : scaled / den < 2 ^ 53 := by
      rw [Nat.div_lt_iff_lt_mul hden]
      omega
    by_cases hzero : scaled / den = 0
    · rw [hzero, Nat.log2_zero]
    · have := (Nat.log2_lt hzero).2 hdiv
      omega
  · have hge : 2 ^ 52 * (den * 2 ^ p) ≤ scaled := by
      obtain rfl | hgt := Nat.eq_or_lt_of_le (hnormal.resolve_left hp)
      · by_contra hbelow
        exact hcarry ⟨⟨rfl, hp⟩, Nat.lt_of_not_le hbelow⟩
      · have hle := Nat.mul_le_mul_right (den * 2 ^ p) (Nat.succ_le_of_lt hgt)
        rw [Nat.succ_mul] at hle
        omega
    have hlower : 2 ^ (52 + p) * den = 2 ^ 52 * (den * 2 ^ p) := by ring
    have hupper : 2 ^ (52 + p + 1) * den = 2 ^ 53 * (den * 2 ^ p) := by ring
    rw [log2_div_eq hden (hlower ▸ hge) (hupper ▸ hlt), Nat.add_sub_cancel_left]

theorem nearestBits_eq (hden : 0 < den) (hs : 0 < s) (hsize : s < 2 ^ 53)
    (hnormal : p = 0 ∨ 2 ^ 52 ≤ s) (hfinite : p * 2 ^ 52 + s ≤ infinityBits)
    (h : Rounds s p scaled den) : nearestBits scaled den = p * 2 ^ 52 + s := by
  by_cases hcarry : (s = 2 ^ 52 ∧ p ≠ 0) ∧ scaled < s * (den * 2 ^ p)
  · obtain ⟨⟨rfl, hp⟩, hbelow⟩ := hcarry
    obtain ⟨q, rfl⟩ := Nat.exists_eq_add_one_of_ne_zero hp
    have hbits : q * 2 ^ 52 + 2 ^ 53 = (q + 1) * 2 ^ 52 + 2 ^ 52 := by ring
    rw [nearestBits_of_carry hden h hbelow, hbits, Nat.min_eq_right hfinite]
  · obtain ⟨hlow, hhigh, hodd⟩ := h.within_half hs hcarry
    have hunit : 0 < den * 2 ^ p := Nat.mul_pos hden (Nat.two_pow_pos p)
    simp only [nearestBits, Nat.pow_eq, h.power_eq hden hs hsize hnormal hcarry]
    rw [roundRatio_eq hunit hlow hhigh hodd, Nat.min_eq_right hfinite]

end NodeWalk.Binary64
