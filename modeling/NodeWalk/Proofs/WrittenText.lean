import NodeWalk.Json.Reader
import NodeWalk.Json.Writer

set_option autoImplicit false

/-!
# Written texts

Each character of a text is written as itself, behind a backslash, or as one unit or a pair
of units in hexadecimal digits, and half of a pair as one unit. The text is read again as it
was, but for two halves of a text that are a pair: these are read as its character.
-/
namespace NodeWalk

/-- The text with the character of each pair of halves in the place of the pair. -/
def Text.joined (s : Text) : Text := ⟨CodePoint.joined s.points⟩

namespace Json

variable {c : Char} {rest : List CodePoint}

theorem hexValue?_hexDigit {n : Nat} (hn : n < 16) : hexValue? (Text.hexDigit n) = some n := by
  have hall : ∀ n, n < 16 → hexValue? (Text.hexDigit n) = some n := by decide
  exact hall n hn

theorem hex_four (n : Nat) : Text.hex 4 n = [Text.hexDigit (n / 4096 % 16),
    Text.hexDigit (n / 256 % 16), Text.hexDigit (n / 16 % 16), Text.hexDigit (n % 16)] := by
  simp [Text.hex, Nat.div_div_eq_div_mul]

theorem unit?_hex {n : Nat} (hn : n < 0x10000) : unit? (Text.hexDigit (n / 4096 % 16))
    (Text.hexDigit (n / 256 % 16)) (Text.hexDigit (n / 16 % 16)) (Text.hexDigit (n % 16)) =
      some n := by
  have hmod (m : Nat) : m % 16 < 16 := Nat.mod_lt m (by decide)
  simp only [unit?, hexValue?_hexDigit (hmod _), Option.bind_eq_bind, Option.bind_some,
    Option.some.injEq]
  omega

def escapedUnit (n : Nat) : List CodePoint := ('\\' :: 'u' :: Text.hex 4 n).map .char

theorem ofNat_toNat (p : CodePoint) : CodePoint.ofNat p.toNat = p := by
  cases p with
  | char c =>
    have hvalid : c.toNat < 0xD800 ∨ 0xDFFF < c.toNat ∧ c.toNat < 0x110000 := c.valid
    rw [CodePoint.toNat_char, CodePoint.ofNat, if_neg (by omega), if_neg (by omega),
      Char.ofNat_toNat]
  | high n =>
    rw [CodePoint.toNat, CodePoint.ofNat, if_pos (by omega), Nat.add_sub_cancel_left,
      Fin.ofNat_val_eq_self]
  | low n =>
    rw [CodePoint.toNat, CodePoint.ofNat, if_neg (by omega), if_pos (by omega),
      Nat.add_sub_cancel_left, Fin.ofNat_val_eq_self]

theorem pairOf_of_not_high {unit : Nat} (h : isHighHalf unit = false) :
    pairOf unit rest = .alone := by
  unfold pairOf
  split
  · rw [h, if_neg Bool.false_ne_true]
  · rfl

theorem pairOf_escapedUnit {unit n : Nat} (hn : n < 0x10000) (hlow : isLowHalf n = false) :
    pairOf unit (escapedUnit n ++ rest) = .alone := by
  rw [escapedUnit, hex_four]
  cases rest with
  | nil => rfl
  | cons d rest =>
    simp only [List.map_cons, List.map_nil, List.cons_append, List.nil_append, pairOf,
      unit?_hex hn, hlow]
    split <;> rfl

variable (start : Nat) (done : List CodePoint)

theorem readText_plain (hquote : c ≠ '"') (hslash : c ≠ '\\') (hc : 0x20 ≤ c.toNat) :
    readText start done (.char c :: rest) = readText start (.char c :: done) rest := by
  simp [readText, hquote, hslash, Nat.not_lt.2 hc]

theorem readText_short {e : Char} (h : unescape? e = some c) :
    readText start done (.char '\\' :: .char e :: rest) =
      readText start (.char c :: done) rest := by
  have hu : e ≠ 'u' := by
    rintro rfl
    cases h
  simp [readText, hu, h]

theorem readText_unit {unit : Nat} (hunit : unit < 0x10000) (hne : rest ≠ [])
    (halone : pairOf unit rest = .alone) :
    readText start done (escapedUnit unit ++ rest) =
      readText start (.ofNat unit :: done) rest := by
  have hempty : rest.isEmpty = false := by simpa using hne
  rw [escapedUnit, hex_four]
  simp only [List.map_cons, List.map_nil, List.cons_append, List.nil_append, readText, hempty,
    if_neg Bool.false_ne_true, unit?_hex hunit, halone]

theorem readText_pair {high low : Nat} (hhigh : isHighHalf high = true)
    (hlow : isLowHalf low = true) (hne : rest ≠ []) :
    readText start done (escapedUnit high ++ (escapedUnit low ++ rest)) =
      readText start (.ofPair high low :: done) rest := by
  obtain ⟨d, behind, rfl⟩ := List.exists_cons_of_ne_nil hne
  have hlt : high < 0x10000 ∧ low < 0x10000 := by
    rw [isHighHalf, Bool.and_eq_true, decide_eq_true_iff, decide_eq_true_iff] at hhigh
    rw [isLowHalf, Bool.and_eq_true, decide_eq_true_iff, decide_eq_true_iff] at hlow
    omega
  have hpair : pairOf high (escapedUnit low ++ d :: behind) = .pair low := by
    rw [escapedUnit, hex_four]
    simp only [List.map_cons, List.map_nil, List.cons_append, List.nil_append, pairOf, hhigh,
      if_true, unit?_hex hlt.2, hlow]
  rw [escapedUnit, hex_four] at hpair
  rw [escapedUnit, escapedUnit, hex_four, hex_four]
  simp only [List.map_cons, List.map_nil, List.cons_append, List.nil_append] at hpair
  simp only [List.map_cons, List.map_nil, List.cons_append, List.nil_append, readText,
    List.isEmpty_cons, if_neg Bool.false_ne_true, unit?_hex hlt.1, hpair]

theorem pair_toNat (hc : 0x10000 ≤ c.toNat) :
    isHighHalf (0xD800 + (c.toNat - 0x10000) / 0x400) = true ∧
      isLowHalf (0xDC00 + (c.toNat - 0x10000) % 0x400) = true ∧
      CodePoint.ofPair (0xD800 + (c.toNat - 0x10000) / 0x400)
        (0xDC00 + (c.toNat - 0x10000) % 0x400) = c := by
  have hvalid : c.toNat < 0xD800 ∨ 0xDFFF < c.toNat ∧ c.toNat < 0x110000 := c.valid
  have hsum : 0x10000 + (0xD800 + (c.toNat - 0x10000) / 0x400 - 0xD800) * 0x400 +
      (0xDC00 + (c.toNat - 0x10000) % 0x400 - 0xDC00) = c.toNat := by omega
  refine ⟨?_, ?_, by rw [CodePoint.ofPair, hsum, Char.ofNat_toNat]⟩
  · rw [isHighHalf, Bool.and_eq_true, decide_eq_true_iff, decide_eq_true_iff]
    omega
  · rw [isLowHalf, Bool.and_eq_true, decide_eq_true_iff, decide_eq_true_iff]
    omega

theorem exists_high {p : CodePoint} (h : isHighHalf p.toNat = true) : ∃ n, p = .high n := by
  rw [isHighHalf, Bool.and_eq_true, decide_eq_true_iff, decide_eq_true_iff] at h
  cases p with
  | char c =>
    have hvalid : c.toNat < 0xD800 ∨ 0xDFFF < c.toNat ∧ c.toNat < 0x110000 := c.valid
    simp only [CodePoint.toNat] at h
    omega
  | high n => exact ⟨n, rfl⟩
  | low n =>
    simp only [CodePoint.toNat] at h
    omega

theorem exists_low {p : CodePoint} (h : isLowHalf p.toNat = true) : ∃ n, p = .low n := by
  rw [isLowHalf, Bool.and_eq_true, decide_eq_true_iff, decide_eq_true_iff] at h
  cases p with
  | char c =>
    have hvalid : c.toNat < 0xD800 ∨ 0xDFFF < c.toNat ∧ c.toNat < 0x110000 := c.valid
    simp only [CodePoint.toNat] at h
    omega
  | high n =>
    simp only [CodePoint.toNat] at h
    omega
  | low n => exact ⟨n, rfl⟩

inductive Escapes : CodePoint → List CodePoint → Prop where
  | plain {c : Char} (quote : c ≠ '"') (slash : c ≠ '\\') (room : 0x20 ≤ c.toNat) :
    Escapes c [.char c]
  | short {c e : Char} (h : unescape? e = some c) : Escapes c [.char '\\', .char e]
  | unit {p : CodePoint} (h : p.toNat < 0x10000) : Escapes p (escapedUnit p.toNat)
  | pair {c : Char} (h : 0x10000 ≤ c.toNat) :
    Escapes c (escapedUnit (0xD800 + (c.toNat - 0x10000) / 0x400) ++
      escapedUnit (0xDC00 + (c.toNat - 0x10000) % 0x400))

theorem escapes_escapePoint (p : CodePoint) : Escapes p ((escapePoint p).map .char) := by
  cases p with
  | high n => exact .unit (by simp only [CodePoint.toNat]; omega)
  | low n => exact .unit (by simp only [CodePoint.toNat]; omega)
  | char c =>
    unfold escapePoint
    dsimp only
    split
    · rename_i h
      obtain rfl | rfl := h
      · exact .short rfl
      · exact .short rfl
    split
    · subst_vars
      exact .short rfl
    split
    · subst_vars
      exact .short rfl
    split
    · subst_vars
      exact .short rfl
    split
    · subst_vars
      exact .short rfl
    split
    · subst_vars
      exact .short rfl
    split
    · rename_i hspecial _ _ _ _ _ hplain
      rw [not_or] at hspecial
      exact .plain hspecial.1 hspecial.2 hplain.1
    split
    · exact .unit ‹_›
    · rw [List.map_append]
      exact .pair (Nat.le_of_not_lt ‹_›)

variable {start done} {p : CodePoint} {cs : List CodePoint}

theorem Escapes.readText (h : Escapes p cs) (hne : rest ≠ [])
    (halone : isHighHalf p.toNat = true → pairOf p.toNat rest = .alone) :
    readText start done (cs ++ rest) = readText start (p :: done) rest := by
  cases h with
  | plain quote slash room => exact readText_plain start done quote slash room
  | short h => exact readText_short start done h
  | unit h =>
    have hpair : pairOf p.toNat rest = .alone := by
      cases hhigh : isHighHalf p.toNat with
      | true => exact halone hhigh
      | false => exact pairOf_of_not_high hhigh
    rw [readText_unit start done h hne hpair, ofNat_toNat]
  | @pair c h =>
    obtain ⟨hhigh, hlow, hchar⟩ := pair_toNat h
    rw [List.append_assoc, readText_pair start done hhigh hlow hne, hchar]

theorem Escapes.pairOf (h : Escapes p cs) (hlow : isLowHalf p.toNat = false) (unit : Nat) :
    pairOf unit (cs ++ rest) = .alone := by
  cases h with
  | plain quote slash room => simp [Json.pairOf, slash]
  | @short c e h =>
    have hu : e ≠ 'u' := by
      rintro rfl
      cases h
    simp [Json.pairOf, hu]
  | unit h => exact pairOf_escapedUnit h hlow
  | @pair c h =>
    obtain ⟨hhigh, -, -⟩ := pair_toNat h
    rw [List.append_assoc]
    refine pairOf_escapedUnit ?_ ?_
    all_goals
      rw [isHighHalf, Bool.and_eq_true, decide_eq_true_iff, decide_eq_true_iff] at hhigh
    · omega
    · rw [isLowHalf, Bool.and_eq_false_iff, decide_eq_false_iff_not]
      omega

theorem readText_escaped (s : List CodePoint) :
    readText start done ((s.flatMap escapePoint).map .char ++ .char '"' :: rest) =
      .ok (⟨done.reverse ++ CodePoint.joined s⟩, rest) := by
  have hne (s : List CodePoint) :
      (s.flatMap escapePoint).map CodePoint.char ++ .char '"' :: rest ≠ [] :=
    List.append_ne_nil_of_right_ne_nil _ (List.cons_ne_nil _ _)
  induction s using CodePoint.joined.induct generalizing done with
  | case1 h l s ih =>
    have hhigh : isHighHalf (CodePoint.high h).toNat = true := by
      rw [isHighHalf, CodePoint.toNat, Bool.and_eq_true, decide_eq_true_iff, decide_eq_true_iff]
      omega
    have hlow : isLowHalf (CodePoint.low l).toNat = true := by
      rw [isLowHalf, CodePoint.toNat, Bool.and_eq_true, decide_eq_true_iff, decide_eq_true_iff]
      omega
    have hpair := readText_pair start done hhigh hlow (hne s)
    rw [ih, List.reverse_cons, List.append_assoc] at hpair
    rw [CodePoint.joined]
    simpa [escapePoint, escapedUnit] using hpair
  | case2 p s hnext ih =>
    have hpair (hhigh : isHighHalf p.toNat = true) :
        pairOf p.toNat ((s.flatMap escapePoint).map .char ++ .char '"' :: rest) = .alone := by
      obtain ⟨h, rfl⟩ := exists_high hhigh
      cases s with
      | nil => simp [pairOf]
      | cons q s =>
        have hlow : isLowHalf q.toNat = false := Bool.eq_false_iff.2 fun hlow => by
          obtain ⟨l, rfl⟩ := exists_low hlow
          exact hnext h l s rfl rfl
        rw [List.flatMap_cons, List.map_append, List.append_assoc]
        exact (escapes_escapePoint q).pairOf hlow _
    rw [CodePoint.joined.eq_2 p s hnext, List.flatMap_cons, List.map_append, List.append_assoc,
      (escapes_escapePoint p).readText (hne s) hpair, ih, List.reverse_cons, List.append_assoc]
    rfl
  | case3 =>
    rw [CodePoint.joined, List.append_nil]
    rfl

end Json
end NodeWalk
