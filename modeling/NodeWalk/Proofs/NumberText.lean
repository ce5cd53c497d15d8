import NodeWalk.Json.Reader
import NodeWalk.Proofs.IndexToken
import NodeWalk.Proofs.ShortestDecimal

set_option autoImplicit false

/-!
# Texts of numbers

What a number at the front of a text is read as, whatever follows it in a document. The text
of a floating-point number is a `NumberText`: the digits before the point, behind it and of
the exponent, and reading takes the three apart again.
-/
namespace NodeWalk

namespace Json

/-- Behind a value stands the end of the text, a comma or the end of a line. -/
def Ends (rest : List CodePoint) : Prop := ∀ c ∈ rest.head?, c = .char ',' ∨ c = .char '\n'

def signed (negative : Bool) (cs : List Char) : List Char := if negative then '-' :: cs else cs

theorem toList_sign (negative : Bool) (s : String) :
    ((if negative then "-" else "") ++ s).toList = signed negative s.toList := by
  rw [String.toList_append]
  cases negative with
  | false => rfl
  | true => rfl

variable {cs : List Char} {rest : List CodePoint}

theorem digits_append (hd : ∀ c ∈ cs, c.isDigit = true)
    (hrest : ∀ c ∈ rest.head?, c.isDigit = false) :
    digits (cs.map .char ++ rest) = (cs.map fun c => c.toNat - 48, rest) := by
  have hstop : rest.takeWhile CodePoint.isDigit = [] ∧
      rest.dropWhile CodePoint.isDigit = rest := by
    cases rest with
    | nil => exact ⟨rfl, rfl⟩
    | cons c rest => simp [hrest c rfl]
  have hd : ∀ c ∈ cs.map CodePoint.char, c.isDigit = true := List.forall_mem_map.2 hd
  rw [digits, List.takeWhile_append_of_pos hd, List.dropWhile_append_of_pos hd, hstop.1, hstop.2,
    List.append_nil, List.map_map]
  rfl

theorem wholePart?_append (hne : cs ≠ []) (hd : ∀ c ∈ cs, c.isDigit = true)
    (hlead : cs = ['0'] ∨ cs.head? ≠ some '0') (hrest : ∀ c ∈ rest.head?, c.isDigit = false) :
    wholePart? (cs.map .char ++ rest) = some (cs.map fun c => c.toNat - 48, rest) := by
  obtain rfl | hlead := hlead
  · rfl
  · obtain ⟨c, cs, rfl⟩ := List.exists_cons_of_ne_nil hne
    rw [← digits_append hd hrest]
    unfold wholePart?
    split
    · rename_i heq
      cases heq
      exact absurd rfl hlead
    · rename_i heq
      cases heq
      exact if_pos (hd c List.mem_cons_self)
    · rename_i heq
      cases heq

theorem fractionPart_append (hne : cs ≠ []) (hd : ∀ c ∈ cs, c.isDigit = true)
    (hrest : ∀ c ∈ rest.head?, c.isDigit = false) :
    fractionPart (.char '.' :: (cs.map .char ++ rest)) = (cs.map fun c => c.toNat - 48, rest) := by
  rw [← digits_append hd hrest]
  obtain ⟨c, cs, rfl⟩ := List.exists_cons_of_ne_nil hne
  exact if_pos (hd c List.mem_cons_self)

theorem fractionPart_of_head (h : ∀ c ∈ rest.head?, c ≠ .char '.') :
    fractionPart rest = ([], rest) := by
  unfold fractionPart
  split
  · exact absurd rfl (h _ rfl)
  · rfl

def exponentSign (negative : Bool) : Char := if negative then '-' else '+'

theorem exponentPart_append (negative : Bool) (hne : cs ≠ []) (hd : ∀ c ∈ cs, c.isDigit = true)
    (hrest : ∀ c ∈ rest.head?, c.isDigit = false) :
    exponentPart (.char 'e' :: .char (exponentSign negative) :: (cs.map .char ++ rest)) =
      (some (if negative then -(Nat.ofDigitChars 10 cs 0 : ℤ) else Nat.ofDigitChars 10 cs 0),
        rest) := by
  have hdigits := digits_append hd hrest
  obtain ⟨c, cs, rfl⟩ := List.exists_cons_of_ne_nil hne
  rw [List.map_cons, List.cons_append] at hdigits
  rw [← Numeral.value_eq_ofDigitChars]
  cases negative with
  | false => simp [exponentPart, exponentSign, hdigits]
  | true => simp [exponentPart, exponentSign, hdigits]

theorem exponentPart_of_head (h : ∀ c ∈ rest.head?, c ≠ .char 'e' ∧ c ≠ .char 'E') :
    exponentPart rest = (none, rest) := by
  cases rest with
  | nil => rfl
  | cons c rest => simp [exponentPart, h c rfl]

/-- The text of a floating-point number without its sign: the digits before the point and
behind it, and the exponent with its own sign. -/
structure NumberText where
  whole : List Char
  fraction : List Char
  exponent : Option (Bool × List Char)

namespace NumberText

def point (t : NumberText) : List Char := if t.fraction = [] then [] else '.' :: t.fraction

def power (t : NumberText) : List Char :=
  t.exponent.elim [] fun e => 'e' :: exponentSign e.1 :: e.2

def chars (t : NumberText) : List Char := t.whole ++ (t.point ++ t.power)

def digits (t : NumberText) : ℕ := Nat.ofDigitChars 10 (t.whole ++ t.fraction) 0

def exponentValue (e : Bool × List Char) : ℤ :=
  if e.1 then -(Nat.ofDigitChars 10 e.2 0 : ℤ) else Nat.ofDigitChars 10 e.2 0

def decimal (t : NumberText) : Decimal :=
  ⟨t.digits, (t.exponent.map exponentValue).getD 0 - t.fraction.length⟩

structure Proper (t : NumberText) : Prop where
  whole_ne : t.whole ≠ []
  lead : t.whole = ['0'] ∨ t.whole.head? ≠ some '0'
  digits : ∀ c ∈ t.whole ++ t.fraction, c.isDigit = true
  exponent : ∀ e ∈ t.exponent, e.2 ≠ [] ∧ ∀ c ∈ e.2, c.isDigit = true
  marked : t.fraction ≠ [] ∨ t.exponent ≠ none

end NumberText

theorem Ends.not_mem_number (h : Ends rest) : ∀ c ∈ rest.head?,
    c.isDigit = false ∧ c ≠ .char '.' ∧ c ≠ .char 'e' ∧ c ≠ .char 'E' := by
  intro c hc
  obtain rfl | rfl := h c hc
  · decide
  · decide

theorem readNumber?_signed (negative : Bool) {whole fraction : List ℕ} {exponent : Option ℤ}
    {behind rest₁ rest₂ : List CodePoint} {c : Char} (hc : c.isDigit = true)
    (hwhole : wholePart? ((c :: cs).map .char ++ behind) = some (whole, rest₁))
    (hpoint : fractionPart rest₁ = (fraction, rest₂))
    (hpower : exponentPart rest₂ = (exponent, rest)) :
    readNumber? ((signed negative (c :: cs)).map .char ++ behind) = some (
      if fraction.isEmpty && exponent.isNone then
        if whole.length > Numeral.maxDigits then .error (.integerTooLong whole.length)
        else .ok (.int (if negative then -(Numeral.value whole : ℤ) else Numeral.value whole), rest)
      else .ok (.float (Binary64.ofDecimal negative (Numeral.value (whole ++ fraction))
        (exponent.getD 0 - fraction.length)), rest)) := by
  rw [List.map_cons, List.cons_append] at hwhole
  cases negative with
  | true => simp [readNumber?, signed, hwhole, hpoint, hpower]
  | false =>
    have hc : c ≠ '-' := by
      rintro rfl
      exact absurd hc (by decide)
    simp [readNumber?, signed, hc, hwhole, hpoint, hpower]

namespace NumberText

variable {t : NumberText}

theorem exponentPart_power (h : t.Proper) (hrest : Ends rest) :
    exponentPart (t.power.map .char ++ rest) = (t.exponent.map exponentValue, rest) := by
  have hends := hrest.not_mem_number
  unfold power
  cases hexponent : t.exponent with
  | none => exact exponentPart_of_head fun c hc => (hends c hc).2.2
  | some e =>
    obtain ⟨hne, hd⟩ := h.exponent e hexponent
    exact exponentPart_append e.1 hne hd fun c hc => (hends c hc).1

theorem head_power (hrest : Ends rest) :
    ∀ c ∈ (t.power.map CodePoint.char ++ rest).head?, c.isDigit = false ∧ c ≠ .char '.' := by
  unfold power
  cases t.exponent with
  | none => exact fun c hc => ⟨(hrest.not_mem_number c hc).1, (hrest.not_mem_number c hc).2.1⟩
  | some e =>
    rintro c ⟨⟩
    decide

theorem fractionPart_point (h : t.Proper) (hrest : Ends rest) :
    fractionPart (t.point.map .char ++ (t.power.map .char ++ rest)) =
      (t.fraction.map fun c => c.toNat - 48, t.power.map .char ++ rest) := by
  have hhead := head_power (t := t) hrest
  unfold point
  split
  · rename_i hnil
    rw [hnil]
    exact fractionPart_of_head fun c hc => (hhead c hc).2
  · rename_i hne
    exact fractionPart_append hne (fun c hc => h.digits c (List.mem_append_right _ hc))
      fun c hc => (hhead c hc).1

theorem head_point (hrest : Ends rest) :
    ∀ c ∈ (t.point.map CodePoint.char ++ (t.power.map CodePoint.char ++ rest)).head?,
      c.isDigit = false := by
  unfold point
  split
  · exact fun c hc => (head_power hrest c hc).1
  · rintro c ⟨⟩
    decide

theorem Proper.wholePart?_chars (h : t.Proper) (hrest : Ends rest) :
    wholePart? (t.chars.map .char ++ rest) = some (t.whole.map fun c => c.toNat - 48,
      t.point.map .char ++ (t.power.map .char ++ rest)) := by
  rw [chars, List.map_append, List.map_append, List.append_assoc, List.append_assoc]
  exact wholePart?_append h.whole_ne (fun c hc => h.digits c (List.mem_append_left _ hc)) h.lead
    (head_point hrest)

theorem Proper.exists_cons (h : t.Proper) : ∃ c cs, c.isDigit = true ∧ t.chars = c :: cs := by
  obtain ⟨c, cs, hcs⟩ := List.exists_cons_of_ne_nil h.whole_ne
  have hc : c ∈ t.whole ++ t.fraction := by
    rw [hcs]
    exact List.mem_cons_self
  exact ⟨c, cs ++ (t.point ++ t.power), h.digits c hc, by rw [chars, hcs]; rfl⟩

theorem Proper.readNumber? (h : t.Proper) (negative : Bool) (hrest : Ends rest) :
    Json.readNumber? ((signed negative t.chars).map .char ++ rest) = some (.ok
      (.float (Binary64.ofDecimal negative t.decimal.digits t.decimal.exponent), rest)) := by
  have hwhole := h.wholePart?_chars hrest
  obtain ⟨c, cs, hc, hcs⟩ := h.exists_cons
  rw [hcs] at hwhole ⊢
  have hmarked : ((t.fraction.map fun c => c.toNat - 48).isEmpty &&
      (t.exponent.map exponentValue).isNone) = false := by
    obtain hne | hne := h.marked
    · simp [hne]
    · simp [Option.isNone_eq_false_iff, Option.isSome_iff_ne_none, hne]
  rw [readNumber?_signed negative hc hwhole (fractionPart_point h hrest)
    (exponentPart_power h hrest), hmarked, if_neg Bool.false_ne_true, ← List.map_append,
    Numeral.value_eq_ofDigitChars, List.length_map]
  rfl

end NumberText

end Json
end NodeWalk
