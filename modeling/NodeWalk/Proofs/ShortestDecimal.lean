import Mathlib.Algebra.Order.Field.Power
import Mathlib.Data.Rat.Cast.Order
import Mathlib.Tactic.FieldSimp
import Mathlib.Tactic.Linarith
import Mathlib.Tactic.LinearCombination
import Mathlib.Tactic.Positivity
import Mathlib.Tactic.Ring
import NodeWalk.Number.Shortest
import NodeWalk.Proofs.NearestNumber

set_option autoImplicit false

/-!
# Shortest decimals

The decimal that stands for a magnitude lies in the interval of reals nearest to it, whether
the search found it on a grid or took the magnitude itself. The interval is the one that
rounding goes by, so every way to write this decimal is read as the number it came from.
-/
namespace NodeWalk

namespace Decimal

def value (d : Decimal) : ℚ := d.digits * 10 ^ d.exponent

theorem zpow_eq_div {b : ℚ} (hb : b ≠ 0) (i : ℤ) : b ^ i = b ^ i.toNat / b ^ (-i).toNat := by
  have hsplit : i = (i.toNat : ℤ) - ((-i).toNat : ℤ) := by omega
  conv_lhs => rw [hsplit]
  rw [zpow_sub₀ hb, zpow_natCast, zpow_natCast]

/-- The two numbers that are compared stand to one another as the two magnitudes do. -/
theorem exists_scale (a : Nat) (i : ℤ) (n : Nat) (j : ℤ) : ∃ c : ℚ, 0 < c ∧
    ((a * Nat.pow 10 i.toNat * Nat.pow 2 (-j).toNat : Nat) : ℚ) = c * (a * 10 ^ i) ∧
    ((n * Nat.pow 2 j.toNat * Nat.pow 10 (-i).toNat : Nat) : ℚ) = c * (n * 2 ^ j) := by
  refine ⟨2 ^ (-j).toNat * 10 ^ (-i).toNat, by positivity, ?_, ?_⟩
  · rw [zpow_eq_div (by norm_num) i]
    push_cast [Nat.pow_eq]
    field_simp
  · rw [zpow_eq_div (by norm_num) j]
    push_cast [Nat.pow_eq]
    field_simp

variable {a n : Nat} {i j : ℤ}

theorem compareScaled_eq_lt : compareScaled a i n j = .lt ↔ (a * 10 ^ i : ℚ) < n * 2 ^ j := by
  obtain ⟨c, hc, hleft, hright⟩ := exists_scale a i n j
  rw [compareScaled, Nat.compare_eq_lt, ← Nat.cast_lt (α := ℚ), hleft, hright,
    mul_lt_mul_iff_right₀ hc]

theorem compareScaled_eq_eq : compareScaled a i n j = .eq ↔ (a * 10 ^ i : ℚ) = n * 2 ^ j := by
  obtain ⟨c, hc, hleft, hright⟩ := exists_scale a i n j
  rw [compareScaled, Nat.compare_eq_eq, ← Nat.cast_inj (R := ℚ), hleft, hright,
    mul_right_inj' hc.ne']

theorem compareScaled_eq_gt : compareScaled a i n j = .gt ↔ (n * 2 ^ j : ℚ) < a * 10 ^ i := by
  obtain ⟨c, hc, hleft, hright⟩ := exists_scale a i n j
  rw [compareScaled, Nat.compare_eq_gt, ← Nat.cast_lt (α := ℚ), hleft, hright,
    mul_lt_mul_iff_right₀ hc]

theorem value_strip (fuel : Nat) (d : Decimal) : (d.strip fuel).value = d.value := by
  induction fuel generalizing d with
  | zero => rfl
  | succ fuel ih =>
    rw [strip]
    split
    · rename_i hzero
      rw [Bool.and_eq_true, beq_iff_eq] at hzero
      have hdigits : d.digits = 10 * (d.digits / 10) := by omega
      rw [ih, value, value, zpow_add_one₀ (by norm_num)]
      conv_rhs => rw [hdigits]
      push_cast
      ring
    · rfl

end Decimal

namespace Magnitude

variable {x : Magnitude} {d : Decimal} {q : ℚ}

def lowEnd (x : Magnitude) : Nat :=
  if x.narrowBelow then 4 * x.significand - 1 else 4 * x.significand - 2

/-- The reals that are nearest to `x`. Only an even significand has the two ends. -/
structure Near (x : Magnitude) (q : ℚ) : Prop where
  low : x.lowEnd * 2 ^ (x.power - 2) ≤ q
  high : q ≤ (4 * x.significand + 2 : Nat) * 2 ^ (x.power - 2)
  odd : x.significand % 2 = 1 → x.lowEnd * 2 ^ (x.power - 2) < q ∧
    q < (4 * x.significand + 2 : Nat) * 2 ^ (x.power - 2)

theorem near_of_contains (h : x.contains d = true) : x.Near d.value := by
  rw [contains, Bool.and_eq_true] at h
  simp only [Bool.or_eq_true, Bool.and_eq_true, beq_iff_eq, Decimal.compareScaled_eq_gt,
    Decimal.compareScaled_eq_lt, Decimal.compareScaled_eq_eq] at h
  change (_ < d.value ∨ _ ∧ d.value = _) ∧ (d.value < _ ∨ _ ∧ d.value = _) at h
  obtain ⟨hlow, hhigh⟩ := h
  constructor
  · exact hlow.elim le_of_lt fun h => h.2.ge
  · exact hhigh.elim le_of_lt fun h => h.2.le
  · intro hodd
    have hopen : ¬ x.significand % 2 = 0 := by omega
    exact ⟨hlow.resolve_right fun h => hopen h.1, hhigh.resolve_right fun h => hopen h.1⟩

theorem near_self (hx : 0 < x.significand) : x.Near (x.significand * 2 ^ x.power) := by
  have hunit : (0 : ℚ) < 2 ^ (x.power - 2) := by positivity
  have hself : (x.significand * 2 ^ x.power : ℚ) =
      ((4 * x.significand : Nat) : ℚ) * 2 ^ (x.power - 2) := by
    rw [zpow_sub₀ (by norm_num)]
    push_cast
    field_simp
  have hlow : x.lowEnd < 4 * x.significand := by
    rw [lowEnd]
    split <;> omega
  have hlt : (x.lowEnd * 2 ^ (x.power - 2) : ℚ) < x.significand * 2 ^ x.power := by
    rw [hself, mul_lt_mul_iff_left₀ hunit, Nat.cast_lt]
    exact hlow
  have hgt : (x.significand * 2 ^ x.power : ℚ) <
      (4 * x.significand + 2 : Nat) * 2 ^ (x.power - 2) := by
    rw [hself, mul_lt_mul_iff_left₀ hunit, Nat.cast_lt]
    omega
  exact ⟨hlt.le, hgt.le, fun _ => ⟨hlt, hgt⟩⟩

theorem value_exact : x.exact.value = x.significand * 2 ^ x.power := by
  rw [exact, Decimal.value]
  push_cast [Nat.pow_eq]
  obtain hpower | hpower := le_total x.power 0
  · have hten : (10 : ℚ) ^ x.power = 5 ^ x.power * 2 ^ x.power := by
      rw [← mul_zpow]
      norm_num
    have hfive : (5 : ℚ) ^ (-x.power).toNat * 5 ^ x.power = 1 := by
      rw [← zpow_natCast, ← zpow_add₀ (by norm_num), Int.toNat_of_nonneg (by omega)]
      norm_num
    rw [min_eq_left hpower, Int.toNat_of_nonpos hpower, hten]
    linear_combination (x.significand * 2 ^ x.power : ℚ) * hfive
  · have htwo : (2 : ℚ) ^ x.power.toNat = 2 ^ x.power := by
      rw [← zpow_natCast, Int.toNat_of_nonneg hpower]
    rw [min_eq_right hpower, htwo, Int.toNat_of_nonpos (Int.neg_nonpos_of_nonneg hpower)]
    ring

theorem near_of_onGrid {k : ℤ} {n : Nat} (h : x.onGrid k n = some d) : x.Near d.value := by
  have hnearer (count : Nat) (e : ℤ) :
      x.nearer count e = count ∨ x.nearer count e = count + 1 := by
    unfold nearer
    split
    · exact .inl rfl
    · exact .inr rfl
    · split
      · exact .inl rfl
      · exact .inr rfl
  simp only [onGrid] at h
  split at h
  · rename_i hbelow habove
    cases h
    obtain hcount | hcount := hnearer (x.countBelow (k - n)) (k - n)
    · rw [hcount]
      exact near_of_contains hbelow
    · rw [hcount]
      exact near_of_contains habove
  · cases h
    exact near_of_contains ‹_›
  · cases h
    exact near_of_contains ‹_›
  · cases h

theorem near_shortest (hx : 0 < x.significand) : x.Near x.shortest.value := by
  rw [shortest, Decimal.value_strip]
  cases hgrid : (List.range 17).findSome? fun n => x.onGrid x.scale (n + 1) with
  | none =>
    rw [Option.getD_none, value_exact]
    exact near_self hx
  | some d =>
    obtain ⟨n, -, hn⟩ := List.exists_of_findSome?_eq_some hgrid
    exact near_of_onGrid hn

theorem Near.pos (h : x.Near q) (hx : 0 < x.significand) : 0 < q := by
  have hlow : 0 < x.lowEnd := by
    rw [lowEnd]
    split <;> omega
  have hunit : (0 : ℚ) < x.lowEnd * 2 ^ (x.power - 2) := by positivity
  exact hunit.trans_le h.low

theorem digits_shortest_ne_zero (hx : 0 < x.significand) : x.shortest.digits ≠ 0 := by
  intro hzero
  have hpos := (near_shortest hx).pos hx
  rw [Decimal.value, hzero, Nat.cast_zero, zero_mul] at hpos
  exact lt_irrefl 0 hpos

end Magnitude

namespace Binary64

variable {x : Binary64}

theorem significand_pos (hx : x.isZero = false) : 0 < x.significand := by
  rw [isZero, Bool.and_eq_false_iff, beq_eq_false_iff_ne, beq_eq_false_iff_ne] at hx
  by_cases hfield : x.exponentField = 0
  · rw [significand, hfield]
    exact Nat.pos_of_ne_zero (hx.resolve_left fun h => h hfield)
  · simp only [significand, beq_iff_eq, hfield, if_false, Nat.pow_eq]
    positivity

theorem significand_lt (x : Binary64) : x.significand < 2 ^ 53 := by
  have hfraction : x.fraction < 2 ^ 52 := by
    rw [fraction_eq]
    exact Nat.mod_lt _ (by positivity)
  rw [significand, Nat.pow_eq]
  split <;> omega

theorem power_eq_zero_or (x : Binary64) : x.power = 0 ∨ 2 ^ 52 ≤ x.significand := by
  by_cases hfield : x.exponentField = 0
  · simp [power, hfield]
  · simp [significand, hfield]

theorem lowEnd_ofBinary64 (x : Binary64) :
    (Magnitude.ofBinary64 x).lowEnd = lowEnd x.significand x.power := by
  have hfraction : x.fraction < 2 ^ 52 := by
    rw [fraction_eq]
    exact Nat.mod_lt _ (by positivity)
  have hnarrow : (Magnitude.ofBinary64 x).narrowBelow = true ↔
      x.significand = 2 ^ 52 ∧ x.power ≠ 0 := by
    simp only [Magnitude.ofBinary64, Bool.and_eq_true, beq_iff_eq, decide_eq_true_eq,
      significand, power, Nat.pow_eq]
    split <;> omega
  rw [Magnitude.lowEnd, lowEnd]
  simp only [hnarrow]
  rfl

/-- A count of quarter units stands to a ratio as it does on the scale of `Position`. -/
theorem exists_scale (p k num : ℕ) {den : ℕ} (hden : 0 < den) : ∃ c : ℚ, 0 < c ∧
    ((4 * (num * 2 ^ k) : ℕ) : ℚ) = c * (num / den) ∧
    ∀ n : ℕ, ((n * (den * 2 ^ p) : ℕ) : ℚ) = c * (n * 2 ^ ((p : ℤ) - k - 2)) := by
  have hden' : (0 : ℚ) < den := Nat.cast_pos.2 hden
  refine ⟨4 * 2 ^ k * den, by positivity, ?_, fun n => ?_⟩
  · push_cast
    field_simp
  · rw [zpow_sub₀ (by norm_num), zpow_sub₀ (by norm_num), zpow_natCast, zpow_natCast]
    push_cast
    field_simp

/-- The interval of reals nearest to a number is the same on the scale of `Position`. -/
theorem rounds_of_near {num den : ℕ} (hden : 0 < den)
    (h : (Magnitude.ofBinary64 x).Near (num / den)) :
    Rounds x.significand x.power (num * 2 ^ 1074) den := by
  obtain ⟨c, hc, hratio, hcount⟩ := exists_scale x.power 1074 num hden
  obtain ⟨hlow, hhigh, hodd⟩ := h
  have hlowEnd := lowEnd_ofBinary64 x
  constructor
  · rw [← Nat.cast_le (α := ℚ), hratio, hcount, mul_le_mul_iff_right₀ hc, ← hlowEnd]
    exact hlow
  · rw [← Nat.cast_le (α := ℚ), hratio, hcount, mul_le_mul_iff_right₀ hc]
    exact hhigh
  · intro h
    rw [← Nat.cast_lt (α := ℚ), ← Nat.cast_lt (α := ℚ), hratio, hcount, hcount,
      mul_lt_mul_iff_right₀ hc, mul_lt_mul_iff_right₀ hc, ← hlowEnd]
    exact hodd h

theorem power_le (hx : x.exponentField ≠ 0x7FF) : x.power ≤ 2045 := by
  have hfield := x.exponentField_eq
  rw [power]
  omega

variable {s p digits : ℕ} {exponent : ℤ}

theorem two_pow_le_ten_pow (n : ℕ) : 2 ^ (3 * n) ≤ 10 ^ n := by
  rw [Nat.pow_mul]
  exact Nat.pow_le_pow_left (by decide) n

/-- A decimal with an exponent that counts as infinite lies beyond all finite numbers. -/
theorem Rounds.exponent_le (hs : s < 2 ^ 53) (hp : p ≤ 2045) (hdigits : digits ≠ 0)
    (h : Rounds s p (digits * 10 ^ exponent.toNat * 2 ^ 1074) (10 ^ (-exponent).toNat)) :
    exponent ≤ 400 := by
  have hhigh := h.high
  generalize hk : 1074 = k at hhigh
  by_contra hgt
  have hone : (-exponent).toNat = 0 := by omega
  have hbound : 2 ^ (2 + (3 * exponent.toNat + k)) ≤ 2 ^ (55 + p) :=
    calc 2 ^ (2 + (3 * exponent.toNat + k)) = 4 * (2 ^ (3 * exponent.toNat) * 2 ^ k) := by
          rw [pow_add, pow_add]
          rfl
      _ ≤ 4 * (digits * 10 ^ exponent.toNat * 2 ^ k) := by
        gcongr
        exact (two_pow_le_ten_pow _).trans (Nat.le_mul_of_pos_left _ (Nat.pos_of_ne_zero hdigits))
      _ ≤ (4 * s + 2) * (10 ^ (-exponent).toNat * 2 ^ p) := hhigh
      _ ≤ 2 ^ 55 * 2 ^ p := by
        rw [hone, Nat.pow_zero, Nat.one_mul]
        gcongr
        omega
      _ = 2 ^ (55 + p) := (Nat.pow_add _ _ _).symm
  have := (Nat.pow_le_pow_iff_right (by decide)).1 hbound
  omega

/-- A decimal with an exponent that counts as zero lies below all positive numbers. -/
theorem Rounds.le_exponent (hs : 0 < s)
    (h : Rounds s p (digits * 10 ^ exponent.toNat * 2 ^ 1074) (10 ^ (-exponent).toNat)) :
    -400 ≤ exponent + ((digits.log2 : ℤ) + 1) := by
  have hlow := h.low
  generalize hk : 1074 = k at hlow
  by_contra hlt
  have hone : exponent.toNat = 0 := by omega
  have hend : 0 < lowEnd s p * 2 ^ p := by
    have : 0 < lowEnd s p := by
      rw [lowEnd]
      split <;> omega
    positivity
  have hbound : 2 ^ (3 * (-exponent).toNat) ≤ 2 ^ (2 + (digits.log2 + 1 + k)) :=
    calc 2 ^ (3 * (-exponent).toNat) ≤ 10 ^ (-exponent).toNat := two_pow_le_ten_pow _
      _ ≤ 10 ^ (-exponent).toNat * (lowEnd s p * 2 ^ p) := Nat.le_mul_of_pos_right _ hend
      _ = lowEnd s p * (10 ^ (-exponent).toNat * 2 ^ p) := by ring
      _ ≤ 4 * (digits * 10 ^ exponent.toNat * 2 ^ k) := hlow
      _ ≤ 4 * (2 ^ (digits.log2 + 1) * 2 ^ k) := by
        rw [hone, Nat.pow_zero, Nat.mul_one]
        gcongr
        exact Nat.lt_log2_self.le
      _ = 2 ^ (2 + (digits.log2 + 1 + k)) := by
        rw [pow_add 2 2, pow_add 2 _ k]
        rfl
  have := (Nat.pow_le_pow_iff_right (by decide)).1 hbound
  omega

theorem ofDecimal_of_near (hfinite : x.exponentField ≠ 0x7FF) (hzero : x.isZero = false)
    (hdigits : digits ≠ 0) (h : (Magnitude.ofBinary64 x).Near (digits * 10 ^ exponent)) :
    ofDecimal x.negative digits exponent = ⟨x.bits, 0⟩ := by
  have hratio : (digits * 10 ^ exponent : ℚ) =
      ((digits * 10 ^ exponent.toNat : ℕ) : ℚ) / ((10 ^ (-exponent).toNat : ℕ) : ℚ) := by
    rw [Decimal.zpow_eq_div (by norm_num) exponent, mul_div_assoc']
    push_cast
    rfl
  have hden : 0 < 10 ^ (-exponent).toNat := Nat.pow_pos (by decide)
  rw [hratio] at h
  have hrounds := rounds_of_near hden h
  have hs := significand_pos hzero
  have hlt := x.significand_lt
  have hp := power_le hfinite
  have hhigh := hrounds.exponent_le hlt hp hdigits
  have hlow := hrounds.le_exponent hs
  have hbits : x.power * 2 ^ 52 + x.significand ≤ infinityBits := by
    rw [infinityBits]
    omega
  rw [← x.ofMagnitude_parts, ← nearestBits_eq hden hs hlt x.power_eq_zero_or hbits hrounds,
    ofDecimal]
  generalize 1074 = k
  simp only [Nat.pow_eq, if_neg hdigits, if_neg (not_lt.2 hhigh), if_neg (not_lt.2 hlow)]

theorem ofDecimal_shortest (hfinite : x.exponentField ≠ 0x7FF) (hzero : x.isZero = false)
    (hvalue : (digits * 10 ^ exponent : ℚ) = (Magnitude.ofBinary64 x).shortest.value) :
    ofDecimal x.negative digits exponent = ⟨x.bits, 0⟩ := by
  have hnear := Magnitude.near_shortest (x := .ofBinary64 x) (significand_pos hzero)
  rw [← hvalue] at hnear
  refine ofDecimal_of_near hfinite hzero (fun h => ?_) hnear
  have hpos := hnear.pos (significand_pos hzero)
  rw [h, Nat.cast_zero, zero_mul] at hpos
  exact lt_irrefl 0 hpos

end Binary64
end NodeWalk
