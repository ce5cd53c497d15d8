import NodeWalk.Proofs.KeepingBuiltIn
import NodeWalk.Proofs.Sameness

set_option autoImplicit false

/-!
# Results of arithmetic

A result without floating-point numbers is an integer, a text or the items of an array, or it is the
class of a fault. Repeating and joining have as their result the sequence so many times over, as
long as a sequence of its kind can be that long.
-/
namespace NodeWalk

inductive Content where
  | int (n : Int)
  | text (s : Text)
  | array (items : List Value)
deriving DecidableEq

abbrev Result := Except FaultClass Content

namespace Objects

def content? (h : Objects) : Value → Option Content
  | .int n => some (.int n)
  | .text s => some (.text s)
  | v => (h.items? v).map .array

def Computed.Has (r : Computed) : Result → Prop
  | .ok c => ∃ v h, r = .ok (v, h) ∧ h.content? v = some c
  | .error k => ∃ f, r = .error f ∧ f.toClass = k

namespace Sequence

def content : Sequence → Content
  | .text s => .text s
  | .array items => .array items

def length : Sequence → Nat
  | .text s => s.length
  | .array items => items.length

/-- The greatest length of a sequence of its kind. -/
def capacity : Sequence → Int
  | .text _ => maxLength
  | .array _ => maxItems

def excess : Sequence → FaultClass
  | .text _ => .overflow
  | .array _ => .memory

def result (x : Sequence) : Result :=
  if x.capacity < x.length then .error x.excess else .ok x.content

def times (n : Nat) : Sequence → Sequence
  | .text s => .text (repeatText n s)
  | .array items => .array (List.replicate n items).flatten

variable (x : Sequence) (m n : Nat)

@[simp] theorem capacity_times : (x.times n).capacity = x.capacity := by cases x <;> rfl

@[simp] theorem excess_times : (x.times n).excess = x.excess := by cases x <;> rfl

@[simp] theorem length_times : (x.times n).length = x.length * n := by
  cases x with
  | text s => simp [times, length, Text.length, repeatText, Nat.mul_comm]
  | array items => simp [times, length, Nat.mul_comm]

@[simp] theorem times_one : x.times 1 = x := by
  cases x with
  | text s => simp [times, repeatText]
  | array items => simp [times]

theorem result_of_fits {x : Sequence} (hx : (x.length : Int) ≤ x.capacity) :
    x.result = .ok x.content := if_neg (Int.not_lt.2 hx)

theorem result_of_excess {x : Sequence} (hx : x.capacity < x.length) :
    x.result = .error x.excess := if_pos hx

theorem result_times_of_le {x : Sequence} {m n : Nat} {k : FaultClass}
    (hm : (x.times m).result = .error k) (hmn : m ≤ n) : (x.times n).result = .error k := by
  by_cases hfits : ((x.times m).length : Int) ≤ (x.times m).capacity
  · rw [result_of_fits hfits] at hm
    cases hm
  · have hle : x.length * m ≤ x.length * n := Nat.mul_le_mul_left _ hmn
    have hexcess : (x.times n).capacity < (x.times n).length := by
      simp only [capacity_times, length_times] at hfits ⊢
      omega
    rw [result_of_excess (Int.not_le.1 hfits), excess_times] at hm
    rw [result_of_excess hexcess, excess_times, hm]

theorem content_of_result {x : Sequence} {c : Content} (hx : x.result = .ok c) : x.content = c := by
  by_cases hfits : (x.length : Int) ≤ x.capacity
  · exact Except.ok.inj ((result_of_fits hfits).symm.trans hx)
  · rw [result_of_excess (Int.not_le.1 hfits)] at hx
    cases hx

end Sequence

variable {h : Objects} {v w count : Value} {x y : Sequence} {m n : Int}

theorem sequence?_eq_some_iff : h.sequence? v = some x ↔ h.content? v = some x.content := by
  cases v with
  | ref a => cases x <;> simp [sequence?, content?, Sequence.content]
  | scalar s => cases s <;> cases x <;>
      simp [sequence?, content?, Sequence.content, items?, find?]

theorem number?_of_sequence? (hv : h.sequence? v = some x) : number? v = none := by
  cases v with
  | ref a => rfl
  | scalar s => cases s <;> first | rfl | cases hv

theorem number?_cases (hv : ∀ y, v ≠ .float y) :
    number? v = none ∨ ∃ n, number? v = some (.int n) := by
  cases v with
  | ref a => exact .inl rfl
  | scalar s =>
    cases s with
    | null => exact .inl rfl
    | bool b => exact .inr ⟨_, rfl⟩
    | int n => exact .inr ⟨n, rfl⟩
    | float y => exact absurd rfl (hv y)
    | text s => exact .inl rfl

theorem content?_newArray (items : List Value) (h : Objects) :
    (h.newArray items).2.content? (h.newArray items).1 = some (.array items) := by
  have hitems := items?_newArray items h
  rw [newArray_eq] at hitems ⊢
  simp only [content?, hitems, Option.map_some]

theorem Sequence.capacity_pos (x : Sequence) : 0 < x.capacity := by
  have hlength : 0 < maxLength := by decide
  have hitems : 0 < maxItems := by decide
  cases x with
  | text s => exact hlength
  | array items => exact hitems

theorem Sequence.excess_times_iff (x : Sequence) (n : Int) :
    x.capacity < (x.times n.toNat).length ↔ x.capacity < x.length * n := by
  rw [length_times]
  by_cases hn : 0 ≤ n
  · rw [Int.natCast_mul, Int.toNat_of_nonneg hn]
  · have hzero : n.toNat = 0 := Int.toNat_of_nonpos (Int.le_of_not_le hn)
    have hneg : (x.length : Int) * n ≤ 0 :=
      Int.mul_nonpos_of_nonneg_of_nonpos (Int.natCast_nonneg _) (Int.le_of_not_le hn)
    have hpos := x.capacity_pos
    rw [hzero, Nat.mul_zero]
    omega

theorem repeatText_of_empty (s : Text) (k : Nat) :
    (if s = "" then ↑"" else repeatText k s) = repeatText k s := by
  by_cases hs : s = ""
  · rw [if_pos hs, hs]
    simp [repeatText, Text.ofString]
  · rw [if_neg hs]

theorem replicate_of_empty (items : List Value) (k : Nat) :
    (if items.isEmpty then [] else (List.replicate k items).flatten) =
      (List.replicate k items).flatten := by
  cases items with
  | nil => simp
  | cons w ws => rfl

theorem repeated_has (hn : number? count = some (.int n))
    (hrange : -maxLength - 1 ≤ n ∧ n ≤ maxLength) :
    (h.repeated x count).Has (x.times n.toNat).result := by
  have hcount : ¬ (n < -maxLength - 1 ∨ maxLength < n) := by omega
  unfold repeated
  rw [hn]
  dsimp only
  rw [if_neg hcount]
  by_cases hexcess : x.capacity < x.length * n
  · have hlong := (x.excess_times_iff n).2 hexcess
    rw [Sequence.result_of_excess ((x.capacity_times _).symm ▸ hlong), Sequence.excess_times]
    cases x with
    | text s => exact ⟨.textTooLong, if_pos hexcess, rfl⟩
    | array items => exact ⟨.outOfMemory, if_pos hexcess, rfl⟩
  · have hfits := Int.not_lt.1 (mt (x.excess_times_iff n).1 hexcess)
    rw [Sequence.result_of_fits ((x.capacity_times _).symm ▸ hfits)]
    cases x with
    | text s =>
      dsimp only
      rw [repeatText_of_empty]
      exact ⟨_, h, if_neg hexcess, rfl⟩
    | array items =>
      dsimp only
      rw [replicate_of_empty]
      exact ⟨_, _, if_neg hexcess, content?_newArray _ h⟩

theorem flatten_replicate_add {α : Type} (m n : Nat) (xs : List α) :
    (List.replicate (m + n) xs).flatten =
      (List.replicate m xs).flatten ++ (List.replicate n xs).flatten := by
  rw [← List.replicate_append_replicate, List.flatten_append]

theorem joined_has {m n : Nat} (hv : h.sequence? v = some (x.times m))
    (hw : h.sequence? w = some (x.times n)) : (h.joined v w).Has (x.times (m + n)).result := by
  have hlength : (x.times (m + n)).length = (x.times m).length + (x.times n).length := by
    simp only [Sequence.length_times, Nat.mul_add]
  unfold joined
  rw [hv, hw]
  by_cases hexcess : (x.times (m + n)).capacity < (x.times (m + n)).length
  · rw [Sequence.result_of_excess hexcess, Sequence.excess_times]
    rw [hlength, Int.natCast_add] at hexcess
    cases x with
    | text s => exact ⟨.joinedTooLong, if_pos hexcess, rfl⟩
    | array items => exact ⟨.outOfMemory, if_pos hexcess, rfl⟩
  · rw [Sequence.result_of_fits (Int.not_lt.1 hexcess)]
    rw [hlength, Int.natCast_add] at hexcess
    cases x with
    | text s =>
      have htext : repeatText (m + n) s = repeatText m s ++ repeatText n s := by
        rw [repeatText, flatten_replicate_add]
        rfl
      exact ⟨_, h, if_neg hexcess, congrArg (some ∘ Content.text) htext.symm⟩
    | array items =>
      refine ⟨_, _, if_neg hexcess, ?_⟩
      rw [← flatten_replicate_add]
      exact content?_newArray _ h

theorem mul_of_numbers (hv : number? v = some (.int m)) (hw : number? w = some (.int n)) :
    h.mul v w = .ok (.int (m * n), h) := by
  unfold mul
  rw [hv, hw]
  rfl

theorem add_of_numbers (hv : number? v = some (.int m)) (hw : number? w = some (.int n)) :
    h.add v w = .ok (.int (m + n), h) := by
  unfold add
  rw [hv, hw]
  rfl

theorem mul_of_sequence (hv : h.sequence? v = some x) : h.mul v w = h.repeated x w := by
  unfold mul
  rw [number?_of_sequence? hv, hv]

theorem mul_of_count (hv : h.sequence? v = none) (hw : h.sequence? w = some x) :
    h.mul v w = h.repeated x v := by
  unfold mul
  rw [number?_of_sequence? hw, hv, hw]
  cases number? v <;> rfl

theorem mul_of_neither (hv : h.sequence? v = none) (hw : h.sequence? w = none)
    (hnumber : number? v = none ∨ number? w = none) :
    h.mul v w = .error (.operands .mul (h.kind v) (h.kind w)) := by
  unfold mul
  rw [hv, hw]
  obtain hnumber | hnumber := hnumber
  · rw [hnumber]
  · rw [hnumber]
    cases number? v <;> rfl

theorem add_of_not_number (hv : number? v = none) : h.add v w = h.joined v w := by
  unfold add
  rw [hv]

theorem joined_of_not_sequence (hv : h.sequence? v = none) :
    h.joined v w = .error (.operands .add (h.kind v) (h.kind w)) := by
  unfold joined
  rw [hv]

theorem exists_repeated_has (hcount : ∀ y, count ≠ .float y) : ∃ r, (h.repeated x count).Has r := by
  obtain hnone | ⟨n, hn⟩ := number?_cases hcount
  · refine ⟨.error .type, .notCount (h.kind count), ?_, rfl⟩
    unfold repeated
    rw [hnone]
  · by_cases hrange : -maxLength - 1 ≤ n ∧ n ≤ maxLength
    · exact ⟨_, repeated_has hn hrange⟩
    · refine ⟨.error .overflow, .countTooLarge, ?_, rfl⟩
      have hcount : n < -maxLength - 1 ∨ maxLength < n := by omega
      unfold repeated
      rw [hn]
      exact if_pos hcount

theorem exists_mul_has (hv : ∀ y, v ≠ .float y) (hw : ∀ y, w ≠ .float y) :
    ∃ r, (h.mul v w).Has r ∧ (h.mul w v).Has r := by
  cases hsv : h.sequence? v with
  | some x =>
    cases hsw : h.sequence? w with
    | some y =>
      -- Neither of two sequences is a count.
      have hnot {u u' : Value} {z z' : Sequence} (hu : h.sequence? u = some z)
          (hu' : h.sequence? u' = some z') : (h.mul u u').Has (.error .type) := by
        refine ⟨.notCount (h.kind u'), ?_, rfl⟩
        rw [mul_of_sequence hu]
        unfold repeated
        rw [number?_of_sequence? hu']
      exact ⟨.error .type, hnot hsv hsw, hnot hsw hsv⟩
    | none =>
      rw [mul_of_sequence hsv, mul_of_count hsw hsv]
      obtain ⟨r, hr⟩ := exists_repeated_has (h := h) (x := x) hw
      exact ⟨r, hr, hr⟩
  | none =>
    cases hsw : h.sequence? w with
    | some y =>
      rw [mul_of_count hsv hsw, mul_of_sequence hsw]
      obtain ⟨r, hr⟩ := exists_repeated_has (h := h) (x := y) hv
      exact ⟨r, hr, hr⟩
    | none =>
      by_cases hnumber : number? v = none ∨ number? w = none
      · rw [mul_of_neither hsv hsw hnumber, mul_of_neither hsw hsv hnumber.symm]
        exact ⟨.error .type, ⟨_, rfl, rfl⟩, ⟨_, rfl, rfl⟩⟩
      · rw [not_or] at hnumber
        obtain ⟨m, hm⟩ := (number?_cases hv).resolve_left hnumber.1
        obtain ⟨n, hn⟩ := (number?_cases hw).resolve_left hnumber.2
        rw [mul_of_numbers hm hn, mul_of_numbers hn hm, Int.mul_comm n m]
        exact ⟨.ok (.int (m * n)), ⟨_, h, rfl, rfl⟩, ⟨_, h, rfl, rfl⟩⟩

theorem mul_has {n : Nat} (hv : h.sequence? v = some x) (hw : number? w = some (.int n))
    (hn : (n : Int) ≤ maxLength) : (h.mul v w).Has (x.times n).result := by
  have hpos : 0 < maxLength := by decide
  have hrepeated : (h.repeated x w).Has (x.times (n : Int).toNat).result :=
    repeated_has hw ⟨by omega, hn⟩
  rw [Int.toNat_natCast] at hrepeated
  rw [mul_of_sequence hv]
  exact hrepeated

theorem add_has {m n : Nat} (hv : h.sequence? v = some (x.times m))
    (hw : h.sequence? w = some (x.times n)) : (h.add v w).Has (x.times (m + n)).result := by
  rw [add_of_not_number (number?_of_sequence? hv)]
  exact joined_has hv hw

/-- To double a value, to add it to itself and to multiply it by two have one result. -/
theorem exists_double_has (hv : ∀ y, v ≠ .float y) :
    ∃ r, (h.double v).Has r ∧ (h.add v v).Has r ∧ (h.mul v (.int 2)).Has r ∧
      ((∃ c, r = .ok c) ∨ r = .error .type ∨
        ∃ x, h.sequence? v = some x ∧ x.capacity < x.length * 2 ∧ r = .error x.excess) := by
  have hdouble : h.double v = h.mul v (.int 2) := rfl
  have htwo : number? (.int 2) = some (.int 2) := rfl
  rw [hdouble]
  obtain hnone | ⟨n, hn⟩ := number?_cases hv
  · cases hs : h.sequence? v with
    | some x =>
      have honce : h.sequence? v = some (x.times 1) := by rw [hs, Sequence.times_one]
      have hmul : (h.mul v (.int 2)).Has (x.times 2).result := mul_has hs htwo (by decide)
      have hadd := add_has honce honce
      refine ⟨(x.times 2).result, hmul, hadd, hmul, ?_⟩
      by_cases hexcess : (x.times 2).capacity < (x.times 2).length
      · refine .inr (.inr ⟨x, rfl, ?_, ?_⟩)
        · rw [Sequence.length_times, Sequence.capacity_times] at hexcess
          exact hexcess
        · rw [Sequence.result_of_excess hexcess, Sequence.excess_times]
      · exact .inl ⟨_, Sequence.result_of_fits (Int.not_lt.1 hexcess)⟩
    | none =>
      rw [mul_of_neither hs rfl (.inl hnone), add_of_not_number hnone, joined_of_not_sequence hs]
      exact ⟨.error .type, ⟨_, rfl, rfl⟩, ⟨_, rfl, rfl⟩, ⟨_, rfl, rfl⟩, .inr (.inl rfl)⟩
  · have htwice : n * 2 = n + n := by omega
    rw [mul_of_numbers hn htwo, add_of_numbers hn hn, htwice]
    exact ⟨.ok (.int (n + n)), ⟨_, h, rfl, rfl⟩, ⟨_, h, rfl, rfl⟩, ⟨_, h, rfl, rfl⟩, .inl ⟨_, rfl⟩⟩

theorem content?_eq_int_iff : h.content? v = some (.int n) ↔ v = .int n := by
  cases v with
  | scalar s => cases s <;> simp [content?, items?, find?]
  | ref a => simp [content?]

theorem content?_eq_text_iff {s : Text} : h.content? v = some (.text s) ↔ v = .text s := by
  cases v with
  | scalar s => cases s <;> simp [content?, items?, find?]
  | ref a => simp [content?]

theorem content?_eq_array_iff {items : List Value} :
    h.content? v = some (.array items) ↔ ∃ a, v = .ref a ∧ h.cell a = .array items := by
  cases v with
  | scalar s => cases s <;> simp [content?, items?, find?]
  | ref a => cases hc : h.cell a <;> simp [content?, items?, find?, hc]

/-- Values of one content compare equal: the items are the same, so none of them is compared. -/
theorem compares_of_content? {c : Content} (hv : h.content? v = some c)
    (hw : h.content? w = some c) : h.compares .eq v w = .ok true := by
  have hscalar (s : Scalar) (hs : ¬ s.IsNaN) :
      h.compares .eq (.scalar s) (.scalar s) = .ok true := by
    unfold compares equal maxDepth equalWithin
    dsimp only
    rw [Scalar.agree_self hs]
  have hitems (items : List Value) (k : Nat) : ((items.zip items).allM fun p =>
      if p.1 = p.2 then some true else h.equalWithin k p.1 p.2) = some true := by
    induction items with
    | nil => rfl
    | cons u us ih =>
      simp only [List.zip_cons_cons, List.allM, ↓reduceIte, ih]
      rfl
  cases c with
  | int n =>
    rw [content?_eq_int_iff.1 hv, content?_eq_int_iff.1 hw]
    exact hscalar _ fun ⟨_, hfloat, _⟩ => nomatch hfloat
  | text s =>
    rw [content?_eq_text_iff.1 hv, content?_eq_text_iff.1 hw]
    exact hscalar _ fun ⟨_, hfloat, _⟩ => nomatch hfloat
  | array items =>
    obtain ⟨a, rfl, ha⟩ := content?_eq_array_iff.1 hv
    obtain ⟨b, rfl, hb⟩ := content?_eq_array_iff.1 hw
    unfold compares equal maxDepth equalWithin
    dsimp only
    rw [ha, hb]
    dsimp only
    rw [if_pos rfl, hitems]

end Objects
end NodeWalk
