import Mathlib.Data.List.Induction
import Mathlib.Data.List.TakeWhile
import NodeWalk.Json.Reader
import NodeWalk.Proofs.Actions
import NodeWalk.Proofs.Reach

set_option autoImplicit false

/-!
# What a text holds

The scalars of a tree that was read from a text have what every scalar of a text has:
a number without digits has the mark 0, and an integer has no more digits than can be
written. Loading the tree brings no others among the objects.
-/
namespace NodeWalk

namespace Scalar

def Unmarked (a : Scalar) : Prop := ∀ x, a = .float x → x.mark = 0

def Writable (a : Scalar) : Prop := ∀ n, a = .int n → Numeral.writable n = true

structure OfText (a : Scalar) : Prop where
  unmarked : a.Unmarked
  writable : a.Writable

end Scalar

namespace Numeral

theorem value_concat (ds : List Nat) (d : Nat) : value (ds ++ [d]) = 10 * value ds + d := by
  rw [value, List.foldl_append]
  rfl

theorem value_lt {ds : List Nat} (h : ∀ d ∈ ds, d < 10) : value ds < Nat.pow 10 ds.length := by
  induction ds using List.reverseRecOn with
  | nil => exact Nat.one_pos
  | append_singleton ds d ih =>
    have hds := ih fun e he => h e (List.mem_append_left _ he)
    have hd := h d (List.mem_append_right _ (List.mem_singleton.2 rfl))
    rw [value_concat, List.length_append, List.length_singleton, Nat.pow_eq, Nat.pow_succ,
      ← Nat.pow_eq]
    omega

theorem value_lt_of_length_le {ds : List Nat} (h : ∀ d ∈ ds, d < 10) {k : Nat}
    (hl : ds.length ≤ k) : value ds < Nat.pow 10 k :=
  Nat.lt_of_lt_of_le (value_lt h) (Nat.pow_le_pow_right (by decide) hl)

theorem writable_of_digits {ds : List Nat} (h : ∀ d ∈ ds, d < 10) (hl : ds.length ≤ maxDigits)
    {n : Int} (hn : n.natAbs = value ds) : writable n = true := by
  rw [writable, decide_eq_true_iff, hn]
  exact value_lt_of_length_le h hl

end Numeral

namespace Json

theorem digits_lt (cs : List CodePoint) : ∀ d ∈ (digits cs).1, d < 10 := by
  refine List.forall_mem_map.2 fun c hc => ?_
  have hd := List.mem_takeWhile_imp hc
  cases c with
  | char c =>
    simp only [CodePoint.isDigit, Char.isDigit, Bool.and_eq_true, decide_eq_true_eq, ge_iff_le,
      UInt32.le_iff_toNat_le] at hd
    have hle : c.toNat ≤ 57 := hd.2
    rw [CodePoint.toNat_char]
    omega
  | high n | low n => cases hd

theorem wholePart?_lt {cs rest : List CodePoint} {ds : List Nat}
    (h : wholePart? cs = some (ds, rest)) : ∀ d ∈ ds, d < 10 := by
  unfold wholePart? at h
  split at h
  · cases h
    simp
  · split at h
    · obtain ⟨rfl, -⟩ := Prod.mk.inj (Option.some.inj h)
      exact digits_lt _
    · cases h
  · cases h

theorem ofText_readNumber? {cs rest : List CodePoint} {a : Scalar}
    (h : readNumber? cs = some (.ok (a, rest))) : a.OfText := by
  unfold readNumber? at h
  dsimp only at h
  split at h
  · cases h
  · rename_i whole unread hwhole
    have h := Option.some.inj h
    split at h
    · split at h
      · cases h
      · rename_i hl
        cases h
        refine ⟨fun x hx => (nomatch hx), fun n hn => ?_⟩
        refine Numeral.writable_of_digits (wholePart?_lt hwhole) (Nat.le_of_not_lt hl) ?_
        rw [← Scalar.int.inj hn]
        split <;> simp
    · cases h
      exact ⟨fun x hx => by cases hx; rfl, fun n hn => nomatch hn⟩

theorem ofText_readScalar {cs rest : List CodePoint} {a : Scalar}
    (h : readScalar cs = .ok (a, rest)) : a.OfText := by
  have named {b : Scalar} {unread : List CodePoint}
      (hb : (Except.ok (b, unread) : Except Stop _) = .ok (a, rest))
      (hm : ∀ x, b = .float x → x.mark = 0) (hi : ∀ n, b ≠ .int n) : a.OfText := by
    cases hb
    exact ⟨hm, fun n hn => absurd hn (hi n)⟩
  unfold readScalar at h
  split at h
  · exact named h (fun _ hx => nomatch hx) (fun _ hx => nomatch hx)
  · exact named h (fun _ hx => nomatch hx) (fun _ hx => nomatch hx)
  · exact named h (fun _ hx => nomatch hx) (fun _ hx => nomatch hx)
  · exact named h (fun _ hx => by cases hx; rfl) (fun _ hx => nomatch hx)
  · exact named h (fun _ hx => by cases hx; rfl) (fun _ hx => nomatch hx)
  · exact named h (fun _ hx => by cases hx; rfl) (fun _ hx => nomatch hx)
  · cases hn : readNumber? cs with
    | none => rw [hn] at h; cases h
    | some r =>
      rw [hn] at h
      exact ofText_readNumber? (hn.trans (congrArg some h))

theorem skipSpace_suffix (cs : List CodePoint) : skipSpace cs <:+ cs := List.dropWhile_suffix _

theorem digits_suffix (cs : List CodePoint) : (digits cs).2 <:+ cs := List.dropWhile_suffix _

theorem wholePart?_suffix {cs rest : List CodePoint} {ds : List Nat}
    (h : wholePart? cs = some (ds, rest)) : rest <:+ cs := by
  unfold wholePart? at h
  split at h
  · cases h
    exact List.suffix_cons _ _
  · split at h
    · obtain ⟨-, rfl⟩ := Prod.mk.inj (Option.some.inj h)
      exact List.dropWhile_suffix _
    · cases h
  · cases h

theorem fractionPart_suffix (cs : List CodePoint) : (fractionPart cs).2 <:+ cs := by
  unfold fractionPart
  split
  · split
    · exact (digits_suffix _).trans (List.suffix_cons _ _)
    · exact List.suffix_rfl
  · exact List.suffix_rfl

theorem exponentPart_suffix (cs : List CodePoint) : (exponentPart cs).2 <:+ cs := by
  unfold exponentPart
  split
  · split
    · dsimp only
      split
      · exact List.suffix_rfl
      · rename_i hdigits
        rw [← congrArg Prod.snd hdigits]
        refine (digits_suffix _).trans (.trans ?_ (List.suffix_cons _ _))
        split
        · exact List.suffix_cons _ _
        · exact List.suffix_cons _ _
        · exact List.suffix_rfl
    · exact List.suffix_rfl
  · exact List.suffix_rfl

theorem readNumber?_suffix {cs rest : List CodePoint} {a : Scalar}
    (h : readNumber? cs = some (.ok (a, rest))) : rest <:+ cs := by
  unfold readNumber? at h
  dsimp only at h
  split at h
  · cases h
  · rename_i whole unread hwhole
    have hunread : unread <:+ cs := by
      refine (wholePart?_suffix hwhole).trans ?_
      split
      · exact List.suffix_cons _ _
      · exact List.suffix_rfl
    have hend := (exponentPart_suffix _).trans ((fractionPart_suffix _).trans hunread)
    have h := Option.some.inj h
    split at h
    · split at h
      · cases h
      · obtain ⟨-, rfl⟩ := Prod.mk.inj (Except.ok.inj h)
        exact hend
    · obtain ⟨-, rfl⟩ := Prod.mk.inj (Except.ok.inj h)
      exact hend

theorem readScalar_suffix {cs rest : List CodePoint} {a : Scalar}
    (h : readScalar cs = .ok (a, rest)) : rest <:+ cs := by
  have named (name : List CodePoint) : rest <:+ name ++ rest := List.suffix_append _ _
  unfold readScalar at h
  split at h
  · cases h
    exact named [_, _, _, _]
  · cases h
    exact named [_, _, _, _]
  · cases h
    exact named [_, _, _, _, _]
  · cases h
    exact named [_, _, _]
  · cases h
    exact named [_, _, _, _, _, _, _, _]
  · cases h
    exact named [_, _, _, _, _, _, _, _, _]
  · cases hn : readNumber? cs with
    | none => rw [hn] at h; cases h
    | some r =>
      rw [hn] at h
      exact readNumber?_suffix (hn.trans (congrArg some h))

theorem readText_suffix {start : Nat} {done cs rest : List CodePoint} {t : Text}
    (h : readText start done cs = .ok (t, rest)) : rest <:+ cs := by
  have behind (front unread : List CodePoint) (hrest : rest <:+ unread) :
      rest <:+ front ++ unread := hrest.trans (List.suffix_append front unread)
  fun_induction readText start done cs with
  | case1 | case3 | case4 | case8 | case9 | case11 | case12 => cases h
  | case2 =>
    cases h
    exact List.suffix_cons _ _
  | case5 done a b c d unread _ _ _ ih => exact behind [_, _, a, b, c, d] unread (ih h)
  | case6 done a b c d _ _ e f i j k l unread _ _ ih =>
    exact behind [_, _, a, b, c, d, e, f, i, j, k, l] unread (ih h)
  | case7 done a b c d _ _ unread _ _ _ ih => exact behind [_, _, a, b, c, d] unread (ih h)
  | case10 done c unread _ _ _ _ ih => exact behind [_, c] unread (ih h)
  | case13 done c unread _ _ _ _ _ _ ih => exact behind [c] unread (ih h)

inductive Every (P : Scalar → Prop) : Json → Prop where
  | scalar {a : Scalar} (h : P a) : Every P (.scalar a)
  | array {items : List Json} (h : ∀ j ∈ items, Every P j) : Every P (.array items)
  | object {entries : List (Text × Json)} (h : ∀ e ∈ entries, Every P e.2) :
    Every P (.object entries)

section

variable {P Q : Scalar → Prop}

theorem every_scalar_iff {a : Scalar} : Every P (.scalar a) ↔ P a :=
  ⟨fun h => by cases h; assumption, .scalar⟩

theorem every_array_iff {items : List Json} : Every P (.array items) ↔ ∀ j ∈ items, Every P j :=
  ⟨fun h => by cases h; assumption, .array⟩

theorem every_object_iff {entries : List (Text × Json)} :
    Every P (.object entries) ↔ ∀ e ∈ entries, Every P e.2 :=
  ⟨fun h => by cases h; assumption, .object⟩

theorem Every.imp (hpq : ∀ a, P a → Q a) {j : Json} (hj : j.Every P) : j.Every Q := by
  induction hj with
  | scalar h => exact .scalar (hpq _ h)
  | array _ ih => exact .array ih
  | object _ ih => exact .object ih

end

end Json

theorem Entries.forall_set {α : Type} {P : α → Prop} {es : Entries α} (h : ∀ e ∈ es, P e.2)
    (k : Text) {v : α} (hv : P v) : ∀ e ∈ set k v es, P e.2 := by
  induction es with
  | nil => exact List.forall_mem_singleton.2 hv
  | cons e es ih =>
    obtain ⟨he, hes⟩ := List.forall_mem_cons.1 h
    unfold set
    split
    · exact List.forall_mem_cons.2 ⟨hv, hes⟩
    · exact List.forall_mem_cons.2 ⟨he, ih hes⟩

theorem Entries.forall_ofPairs {α : Type} {P : α → Prop} {ps : List (Text × α)}
    (h : ∀ p ∈ ps, P p.2) : ∀ e ∈ ofPairs ps, P e.2 := by
  have hf (es : Entries α) (hes : ∀ e ∈ es, P e.2) :
      ∀ e ∈ ps.foldl (fun es p => set p.1 p.2 es) es, P e.2 := by
    induction ps generalizing es with
    | nil => exact hes
    | cons p ps ih =>
      obtain ⟨hp, hps⟩ := List.forall_mem_cons.1 h
      exact ih hps _ (forall_set hes p.1 hp)
  exact hf [] fun _ he => nomatch he

namespace Json

def TextOf (input : List CodePoint) (t : Text) : Prop :=
  ∃ start cs rest, cs <:+ input ∧ readText start [] cs = .ok (t, rest)

/-- What holds of all scalars and texts that are read, and of a container with what it holds
of. -/
structure Readable (input : List CodePoint) (P : Json → Prop) : Prop where
  scalar : ∀ {cs a rest}, readScalar cs = .ok (a, rest) → P (.scalar a)
  text : ∀ t, TextOf input t → P (.scalar (.text t))
  array : ∀ items, (∀ j ∈ items, P j) → P (.array items)
  object : ∀ pairs, (∀ p ∈ pairs, TextOf input p.1 ∧ P p.2) →
    P (.object (Entries.ofPairs pairs))

/-- It holds of what the readers find in the input within so many calls. -/
structure Finds (input : List CodePoint) (P : Json → Prop) (fuel : Nat) : Prop where
  value : ∀ {cs j rest}, cs <:+ input → readValue fuel cs = .ok (j, rest) → rest <:+ input ∧ P j
  items : ∀ {done cs j rest}, cs <:+ input → (∀ d ∈ done, P d) →
    readItems fuel done cs = .ok (j, rest) → rest <:+ input ∧ P j
  members : ∀ {done cs j rest}, cs <:+ input → (∀ d ∈ done, TextOf input d.1 ∧ P d.2) →
    readMembers fuel done cs = .ok (j, rest) → rest <:+ input ∧ P j

section

variable {P : Json → Prop} {fuel : Nat} {input cs rest : List CodePoint} {j : Json}

theorem suffix_of_cons {c : CodePoint} (h : c :: cs <:+ input) : cs <:+ input :=
  (List.suffix_cons c cs).trans h

theorem suffix_of_skipSpace {c : CodePoint} (h : cs <:+ input) (hc : skipSpace cs = c :: rest) :
    rest <:+ input :=
  suffix_of_cons (hc ▸ (skipSpace_suffix cs).trans h)

theorem Finds.readValue (hP : Readable input P) (ih : Finds input P fuel) (hcs : cs <:+ input)
    (h : readValue (fuel + 1) cs = .ok (j, rest)) : rest <:+ input ∧ P j := by
  unfold Json.readValue at h
  split at h
  · obtain ⟨⟨t, _⟩, ht, hok⟩ := bind_ok_iff.1 h
    cases hok
    have hbehind := suffix_of_cons hcs
    exact ⟨(readText_suffix ht).trans hbehind, hP.text t ⟨_, _, _, hbehind, ht⟩⟩
  · have hbehind := suffix_of_cons hcs
    split at h
    · cases h
      exact ⟨suffix_of_skipSpace hbehind ‹_›, hP.array [] (List.forall_mem_nil _)⟩
    · exact ih.items ((skipSpace_suffix _).trans hbehind) (List.forall_mem_nil _) h
  · have hbehind := suffix_of_cons hcs
    split at h
    · cases h
      exact ⟨suffix_of_skipSpace hbehind ‹_›, hP.object [] (List.forall_mem_nil _)⟩
    · exact ih.members ((skipSpace_suffix _).trans hbehind) (List.forall_mem_nil _) h
  · obtain ⟨⟨a, _⟩, hs, hok⟩ := bind_ok_iff.1 h
    cases hok
    exact ⟨(readScalar_suffix hs).trans hcs, hP.scalar hs⟩

theorem Finds.readItems (hP : Readable input P) (ih : Finds input P fuel) {done : List Json}
    (hcs : cs <:+ input) (hd : ∀ d ∈ done, P d)
    (h : readItems (fuel + 1) done cs = .ok (j, rest)) : rest <:+ input ∧ P j := by
  unfold Json.readItems at h
  obtain ⟨⟨v, _⟩, hv, hrest⟩ := bind_ok_iff.1 h
  obtain ⟨hbehind, hPv⟩ := ih.value hcs hv
  have hall : ∀ d ∈ v :: done, P d := List.forall_mem_cons.2 ⟨hPv, hd⟩
  dsimp only at hrest
  split at hrest
  · cases hrest
    exact ⟨suffix_of_skipSpace hbehind ‹_›,
      hP.array _ fun d hm => hall d (List.mem_reverse.1 hm)⟩
  · have hnext := suffix_of_skipSpace hbehind ‹_›
    exact ih.items ((skipSpace_suffix _).trans hnext) hall hrest
  · cases hrest

theorem Finds.readMembers (hP : Readable input P) (ih : Finds input P fuel)
    {done : List (Text × Json)} (hcs : cs <:+ input) (hd : ∀ d ∈ done, TextOf input d.1 ∧ P d.2)
    (h : readMembers (fuel + 1) done cs = .ok (j, rest)) : rest <:+ input ∧ P j := by
  unfold Json.readMembers at h
  split at h
  · obtain ⟨⟨k, _⟩, hk, hbehind⟩ := bind_ok_iff.1 h
    have hkey := suffix_of_cons hcs
    have hcolon := (readText_suffix hk).trans hkey
    dsimp only at hbehind
    split at hbehind
    · have hvalue := suffix_of_skipSpace hcolon ‹_›
      obtain ⟨⟨v, _⟩, hv, hrest⟩ := bind_ok_iff.1 hbehind
      obtain ⟨hend, hPv⟩ := ih.value ((skipSpace_suffix _).trans hvalue) hv
      have hall : ∀ d ∈ (k, v) :: done, TextOf input d.1 ∧ P d.2 :=
        List.forall_mem_cons.2 ⟨⟨⟨_, _, _, hkey, hk⟩, hPv⟩, hd⟩
      dsimp only at hrest
      split at hrest
      · cases hrest
        exact ⟨suffix_of_skipSpace hend ‹_›,
          hP.object _ fun d hm => hall d (List.mem_reverse.1 hm)⟩
      · have hnext := suffix_of_skipSpace hend ‹_›
        exact ih.members ((skipSpace_suffix _).trans hnext) hall hrest
      · cases hrest
    · cases hbehind
  · cases h

theorem Readable.finds (hP : Readable input P) (fuel : Nat) : Finds input P fuel := by
  induction fuel with
  | zero => exact ⟨fun _ h => (nomatch h), fun _ _ h => (nomatch h), fun _ _ h => nomatch h⟩
  | succ fuel ih => exact ⟨ih.readValue hP, ih.readItems hP, ih.readMembers hP⟩

theorem Readable.read (hP : Readable cs P) (h : read cs = .ok j) : P j := by
  unfold Json.read at h
  split at h
  · cases h
  · cases hw : readWhole cs with
    | error f => rw [hw] at h; cases h
    | ok k =>
      rw [hw] at h
      cases h
      obtain ⟨⟨v, _⟩, hv, hend⟩ := bind_ok_iff.1 hw
      dsimp only at hend
      split at hend
      · cases hend
        exact ((hP.finds _).value (skipSpace_suffix cs) hv).2
      · cases hend

theorem every_read (h : Json.read cs = .ok j) : j.Every Scalar.OfText :=
  Readable.read ⟨fun hs => .scalar (ofText_readScalar hs),
    fun _ _ => .scalar ⟨fun _ hx => (nomatch hx), fun _ hx => nomatch hx⟩,
    fun _ hitems => .array hitems,
    fun _ hpairs => .object (Entries.forall_ofPairs fun p hp => (hpairs p hp).2)⟩ h

end

end Json

namespace Objects

variable {P : Scalar → Prop} {base : Addr}

structure Every (P : Scalar → Prop) (h : Objects) (v : Value) : Prop where
  self : ∀ a, v = .scalar a → P a
  inside : ∀ b ∈ h.reach v, ∀ a, .scalar a ∈ (h.cell b).values → P a

theorem Every.imp {Q : Scalar → Prop} (hpq : ∀ a, P a → Q a) {h : Objects} {v : Value}
    (hv : h.Every P v) : h.Every Q v where
  self a ha := hpq a (hv.self a ha)
  inside b hb a ha := hpq a (hv.inside b hb a ha)

/-- A value that leads to none but new cells, or a scalar that is such. -/
def Loaded (P : Scalar → Prop) (base : Addr) : Value → Prop
  | .scalar a => P a
  | .ref b => base ≤ b

structure Holding (P : Scalar → Prop) (base : Addr) (h : Objects) : Prop where
  size : base ≤ h.cells.size
  cell : ∀ b, base ≤ b → ∀ v ∈ (h.cell b).values, Loaded P base v

theorem Holding.alloc {h : Objects} (hh : h.Holding P base) {c : Cell}
    (hc : ∀ v ∈ c.values, Loaded P base v) : (h.alloc c).2.Holding P base where
  size := by
    rw [size_alloc]
    exact Nat.le_succ_of_le hh.size
  cell b hb := by
    obtain hlt | rfl | hgt := Nat.lt_trichotomy b h.cells.size
    · rw [cell_alloc_of_lt hlt]
      exact hh.cell b hb
    · rw [cell_alloc_self]
      exact hc
    · rw [cell_of_size_le (by rw [size_alloc]; exact hgt)]
      exact List.forall_mem_nil _

theorem holding_loadItems {items : List Json} (hitems : ∀ j ∈ items, ∀ {h : Objects},
      h.Holding P base → (h.load j).2.Holding P base ∧ Loaded P base (h.load j).1) {h : Objects}
    (hh : h.Holding P base) : (h.loadItems items).2.Holding P base ∧
      ∀ v ∈ (h.loadItems items).1, Loaded P base v := by
  induction items generalizing h with
  | nil => exact ⟨hh, List.forall_mem_nil _⟩
  | cons j js ih =>
    obtain ⟨hj, hjs⟩ := List.forall_mem_cons.1 hitems
    obtain ⟨hh₁, hv⟩ := hj hh
    obtain ⟨hh₂, hvs⟩ := ih hjs hh₁
    exact ⟨hh₂, List.forall_mem_cons.2 ⟨hv, hvs⟩⟩

theorem holding_loadMembers {entries : List (Text × Json)} (hentries : ∀ e ∈ entries,
      ∀ {h : Objects}, h.Holding P base →
        (h.load e.2).2.Holding P base ∧ Loaded P base (h.load e.2).1) {h : Objects}
    (hh : h.Holding P base) : (h.loadMembers entries).2.Holding P base ∧
      ∀ e ∈ (h.loadMembers entries).1, Loaded P base e.2 := by
  induction entries generalizing h with
  | nil => exact ⟨hh, List.forall_mem_nil _⟩
  | cons e es ih =>
    obtain ⟨he, hes⟩ := List.forall_mem_cons.1 hentries
    obtain ⟨hh₁, hv⟩ := he hh
    obtain ⟨hh₂, hvs⟩ := ih hes hh₁
    exact ⟨hh₂, List.forall_mem_cons.2 ⟨hv, hvs⟩⟩

theorem holding_load {j : Json} (hj : j.Every P) {h : Objects} (hh : h.Holding P base) :
    (h.load j).2.Holding P base ∧ Loaded P base (h.load j).1 := by
  induction hj generalizing h with
  | scalar ha => exact ⟨hh, ha⟩
  | @array items _ ih =>
    obtain ⟨hh₁, hvs⟩ := holding_loadItems (fun j hj => ih j hj) hh
    exact ⟨hh₁.alloc hvs, hh₁.size⟩
  | @object entries _ ih =>
    obtain ⟨hh₁, hes⟩ := holding_loadMembers (fun e he => ih e he) hh
    exact ⟨hh₁.alloc (List.forall_mem_map.2 hes), hh₁.size⟩

theorem every_load {j : Json} (hj : j.Every P) (h : Objects) :
    (h.load j).2.Every P (h.load j).1 := by
  have hempty : h.Holding P h.cells.size :=
    ⟨Nat.le_refl _, fun b hb => by rw [cell_of_size_le hb]; exact List.forall_mem_nil _⟩
  obtain ⟨hh, hv⟩ := holding_load hj hempty
  have hclosed : (h.load j).2.Closed {b | h.cells.size ≤ b} := by
    intro b hb c hc
    obtain ⟨w, hw, hcw⟩ := List.mem_flatMap.1 hc
    cases w with
    | scalar a => cases hcw
    | ref d =>
      rw [List.mem_singleton.1 hcw]
      exact hh.cell b hb _ hw
  refine ⟨fun a ha => by rw [ha] at hv; exact hv, fun b hb a ha => ?_⟩
  refine hh.cell b (reach_subset hclosed (fun c hc => ?_) b hb) _ ha
  cases hl : (h.load j).1 with
  | scalar a => rw [hl] at hc; cases hc
  | ref d =>
    rw [hl] at hc hv
    rw [List.mem_singleton.1 hc]
    exact hv

end Objects
end NodeWalk
