import NodeWalk.Proofs.Kept
import NodeWalk.Proofs.Mirrors

set_option autoImplicit false

/-!
# Writes to mirrored stores

What is written to both sides, renamed on the second, leaves them mirrored: new
cells, a cell written in place, a new mark. A deep copy is a list of new cells that
refer to each other only, so it may be made of a scope of its own.
-/
namespace NodeWalk

def Scope.plus (s : Scope) (base n : Nat) : Scope :=
  ⟨s.cells ∪ {a | base ≤ a ∧ a < base + n}, s.marks⟩

theorem Scope.le_plus (s : Scope) (base n : Nat) : s ≤ s.plus base n :=
  ⟨fun _ h => .inl h, fun _ h => h⟩

theorem Scope.mem_plus {s : Scope} {base n i : Nat} (hi : i < n) :
    base + i ∈ (s.plus base n).cells :=
  .inr ⟨Nat.le_add_right _ _, Nat.add_lt_add_left hi base⟩

/-- The renaming that sends the cells from `base` on to those from `base'` on. -/
def Renaming.shifted (ρ : Renaming) (base base' : Nat) : Renaming :=
  ⟨fun a => if a < base then ρ.cell a else base' + (a - base), ρ.mark⟩

@[simp] theorem Renaming.shifted_add (ρ : Renaming) (base base' i : Nat) :
    (ρ.shifted base base').cell (base + i) = base' + i := by
  simp [shifted]

def Scope.marked (s : Scope) (m : Nat) : Scope := ⟨s.cells, s.marks ∪ {m}⟩

theorem Scope.le_marked (s : Scope) (m : Nat) : s ≤ s.marked m :=
  ⟨fun _ h => h, fun _ h => .inl h⟩

/-- The renaming that sends the marks from `m` on to `m'`. -/
def Renaming.remarked (ρ : Renaming) (m m' : Nat) : Renaming :=
  ⟨ρ.cell, fun k => if k < m then ρ.mark k else m'⟩

namespace Objects

variable {h h' g g' : Objects} {ρ σ : Renaming} {s p : Scope} {v : Value}

theorem Holds.kept (hs : h.Holds s) (hk : h.Kept g) : g.Holds s where
  size a ha := Nat.lt_of_lt_of_le (hs.size a ha) hk.size
  within a ha := by
    rw [hk.cell a (hs.size a ha)]
    exact hs.within a ha
  mark m hm := Nat.lt_of_lt_of_le (hs.mark m hm) hk.mark
  zero := hs.zero

theorem Mirrors.kept (hm : Mirrors ρ s h h') (hk : h.Kept g) (hk' : h'.Kept g') :
    Mirrors ρ s g g' where
  toHolds := hm.toHolds.kept hk
  imageSize a ha := Nat.lt_of_lt_of_le (hm.imageSize a ha) hk'.size
  cell a ha := by
    rw [hk'.cell _ (hm.imageSize a ha), hk.cell a (hm.size a ha)]
    exact hm.cell a ha
  inj := hm.inj
  imageMark m hmark := Nat.lt_of_lt_of_le (hm.imageMark m hmark) hk'.mark
  injMark := hm.injMark
  imageZero := hm.imageZero

theorem Mirrors.agrees_shifted (hm : Mirrors ρ s h h') :
    (ρ.shifted h.cells.size h'.cells.size).Agrees ρ s where
  cell a ha := if_pos (hm.size a ha)
  mark _ _ := rfl

theorem Mirrors.append (hm : Mirrors ρ s h h') {cs : List Cell}
    (hcs : Within (s.plus h.cells.size cs.length) cs) :
    Mirrors (ρ.shifted h.cells.size h'.cells.size) (s.plus h.cells.size cs.length)
      (h.append cs) (h'.append (rename (ρ.shifted h.cells.size h'.cells.size) cs)) := by
  have hagrees := hm.agrees_shifted
  have hle := s.le_plus h.cells.size cs.length
  -- A cell of the greater scope is an old one or one of the new ones.
  have split {a : Nat} (ha : a ∈ (s.plus h.cells.size cs.length).cells) :
      a ∈ s.cells ∨ ∃ i, i < cs.length ∧ a = h.cells.size + i := by
    rcases ha with ha | ⟨hle, hlt⟩
    · exact .inl ha
    · exact .inr ⟨a - h.cells.size, by omega, by omega⟩
  have old {a : Nat} (ha : a ∈ s.cells) :
      (ρ.shifted h.cells.size h'.cells.size).cell a = ρ.cell a := hagrees.cell a ha
  constructor
  · constructor
    · intro a ha
      obtain ha | ⟨i, hi, rfl⟩ := split ha
      · have := hm.size a ha
        rw [size_append]
        omega
      · rw [size_append]
        omega
    · intro a ha
      obtain ha | ⟨i, hi, rfl⟩ := split ha
      · rw [cell_append_of_lt (hm.size a ha)]
        exact Carries.mono hle (hm.within a ha)
      · rw [cell_append_add hi]
        exact hcs _ (List.getElem_mem hi)
    · exact hm.mark
    · exact hm.zero
  · intro a ha
    obtain ha | ⟨i, hi, rfl⟩ := split ha
    · rw [old ha, cell_append_of_lt (hm.imageSize a ha), cell_append_of_lt (hm.size a ha),
        hm.cell a ha]
      exact Carries.congr hagrees.symm (hm.within a ha)
    · rw [Renaming.shifted_add, cell_append_add hi,
        cell_append_add (by rw [length_rename]; exact hi)]
      simp only [rename_list, List.getElem_map]
  · intro a ha b hb hab
    obtain ha | ⟨i, hi, rfl⟩ := split ha
    · have := hm.imageSize a ha
      obtain hb | ⟨j, hj, rfl⟩ := split hb
      · rw [old ha, old hb] at hab
        exact hm.inj ha hb hab
      · rw [old ha, Renaming.shifted_add] at hab
        omega
    · obtain hb | ⟨j, hj, rfl⟩ := split hb
      · have := hm.imageSize b hb
        rw [old hb, Renaming.shifted_add] at hab
        omega
      · rw [Renaming.shifted_add, Renaming.shifted_add] at hab
        omega
  · intro a ha
    obtain ha | ⟨i, hi, rfl⟩ := split ha
    · have := hm.imageSize a ha
      rw [old ha, size_append]
      omega
    · rw [Renaming.shifted_add, size_append, length_rename]
      omega
  · exact hm.imageMark
  · exact hm.injMark
  · exact hm.imageZero

theorem Mirrors.put (hm : Mirrors ρ s h h') {a : Addr} (ha : a ∈ s.cells) {c : Cell}
    (hc : Within s c) : Mirrors ρ s (h.put a c) (h'.put (ρ.cell a) (rename ρ c)) where
  size b hb := by
    rw [size_put]
    exact hm.size b hb
  within b hb := by
    by_cases hab : a = b
    · subst hab
      rw [cell_put_self (hm.size a ha)]
      exact hc
    · rw [cell_put_of_ne hab]
      exact hm.within b hb
  mark := hm.mark
  zero := hm.zero
  imageSize b hb := by
    rw [size_put]
    exact hm.imageSize b hb
  cell b hb := by
    by_cases hab : a = b
    · subst hab
      rw [cell_put_self (hm.imageSize a ha), cell_put_self (hm.size a ha)]
    · have hne : ρ.cell a ≠ ρ.cell b := fun he => hab (hm.inj ha hb he)
      rw [cell_put_of_ne hne, cell_put_of_ne hab]
      exact hm.cell b hb
  inj := hm.inj
  imageMark := hm.imageMark
  injMark := hm.injMark
  imageZero := hm.imageZero

theorem Mirrors.freshMark (hm : Mirrors ρ s h h') :
    Mirrors (ρ.remarked h.nextMark h'.nextMark) (s.marked h.nextMark) h.freshMark.2
      h'.freshMark.2 := by
  have hagrees : (ρ.remarked h.nextMark h'.nextMark).Agrees ρ s :=
    ⟨fun _ _ => rfl, fun m hmark => if_pos (hm.mark m hmark)⟩
  have new : (ρ.remarked h.nextMark h'.nextMark).mark h.nextMark = h'.nextMark := by
    simp [Renaming.remarked]
  constructor
  · constructor
    · exact hm.size
    · exact fun a ha => Carries.mono (s.le_marked _) (hm.within a ha)
    · rintro m (hmark | rfl)
      · exact Nat.lt_succ_of_lt (hm.mark m hmark)
      · exact Nat.lt_succ_self _
    · exact .inl hm.zero
  · intro a ha
    exact (hm.cell a ha).trans (Carries.congr hagrees.symm (hm.within a ha))
  · exact hm.inj
  · exact hm.imageSize
  · rintro m (hmark | rfl)
    · rw [hagrees.mark m hmark]
      exact Nat.lt_succ_of_lt (hm.imageMark m hmark)
    · rw [new]
      exact Nat.lt_succ_self _
  · rintro m (hmark | rfl) k (hk | rfl) hmk
    · rw [hagrees.mark m hmark, hagrees.mark k hk] at hmk
      exact hm.injMark hmark hk hmk
    · rw [hagrees.mark m hmark, new] at hmk
      exact absurd hmk (Nat.ne_of_lt (hm.imageMark m hmark))
    · rw [hagrees.mark k hk, new] at hmk
      exact absurd hmk.symm (Nat.ne_of_lt (hm.imageMark k hk))
    · rfl
  · rw [hagrees.mark 0 hm.zero]
    exact hm.imageZero

/-- Where the cells of a list go when they move to `base` and on. -/
def Renaming.moved (cells : List Addr) (base : Nat) : Renaming :=
  ⟨fun a => ((cells.idxOf? a).map (base + ·)).getD a, id⟩

theorem moved_eq_rename (cells : List Addr) (base : Nat) (v : Value) :
    moved cells base v = rename (Renaming.moved cells base) v := by
  cases v with
  | scalar a => exact congrArg Value.scalar (Carries.same a).symm
  | ref a => rfl

def copies (h : Objects) (v : Value) : List Cell :=
  (h.reach v).map fun a => rename (Renaming.moved (h.reach v) h.cells.size) (h.cell a)

theorem copy_eq (v : Value) (h : Objects) :
    h.copy v = (rename (Renaming.moved (h.reach v) h.cells.size) v, h.append (h.copies v)) := by
  have hf : moved (h.reach v) h.cells.size = rename (Renaming.moved (h.reach v) h.cells.size) :=
    funext fun w => moved_eq_rename _ _ w
  simp only [copy, hf]
  rfl

theorem exists_moved {cells : List Addr} {a : Addr} (ha : a ∈ cells) (base : Nat) :
    ∃ i, i < cells.length ∧ cells.idxOf? a = some i ∧
      (Renaming.moved cells base).cell a = base + i := by
  cases hi : cells.idxOf? a with
  | none =>
    rw [List.idxOf?_eq_none_iff] at hi
    exact absurd ha hi
  | some i =>
    refine ⟨i, ?_, rfl, ?_⟩
    · rw [List.idxOf?_eq_some_iff] at hi
      exact hi.1
    · simp [Renaming.moved, hi]

@[simp] theorem length_copies (h : Objects) (v : Value) :
    (h.copies v).length = (h.reach v).length := List.length_map _

/-- A scope to copy from: mirrored on its own, its marks renamed as everywhere. -/
structure Source (σ : Renaming) (p : Scope) (ρ : Renaming) (s : Scope) (h h' : Objects) : Prop
    extends Mirrors σ p h h' where
  marks : p.marks ⊆ s.marks
  agrees : ∀ m ∈ p.marks, ρ.mark m = σ.mark m

section Copies

variable {cells : List Addr} {base base' : Nat} {w : Value}

theorem within_moved (hmarks : p.marks ⊆ s.marks) (hw : Within p w)
    (hrefs : ∀ a ∈ w.refs, a ∈ cells) :
    Within (s.plus base cells.length) (rename (Renaming.moved cells base) w) := by
  cases w with
  | scalar a =>
    have ha : rename (Renaming.moved cells base) a = a := Carries.same a
    rw [rename_scalar, within_scalar, ha]
    exact fun m hm => hmarks (hw m hm)
  | ref a =>
    obtain ⟨i, hi, -, ha⟩ := exists_moved (hrefs a (List.mem_singleton.2 rfl)) base
    rw [rename_ref, within_ref, ha]
    exact Scope.mem_plus hi

theorem Source.moved_rename (hp : Source σ p ρ s h h') (hcells : ∀ a ∈ cells, a ∈ p.cells)
    (hw : Within p w) (hrefs : ∀ a ∈ w.refs, a ∈ cells) :
    rename (Renaming.moved (cells.map σ.cell) base') (rename σ w) =
      rename (ρ.shifted base base') (rename (Renaming.moved cells base) w) := by
  cases w with
  | scalar a =>
    have hm : rename (Renaming.moved (cells.map σ.cell) base') (rename σ a) = rename σ a :=
      Carries.same _
    have hm' : rename (Renaming.moved cells base) a = a := Carries.same a
    simp only [rename_scalar, hm, hm', Value.scalar.injEq]
    cases a with
    | float x =>
      simp only [rename_float, Renaming.shifted, hp.agrees x.mark (hw x.mark ⟨x, rfl, rfl⟩)]
    | _ => rfl
  | ref a =>
    obtain ⟨i, hi, hidx, ha⟩ := exists_moved (hrefs a (List.mem_singleton.2 rfl)) base
    have himage := hp.idxOf?_map hcells hw
    simp only [rename_ref, ha, Renaming.shifted_add, Value.ref.injEq]
    simp [Renaming.moved, himage, hidx]

end Copies

theorem refs_subset_reach {a : Addr} (ha : a ∈ h.reach v) {w : Value}
    (hw : w ∈ (h.cell a).values) : ∀ b ∈ w.refs, b ∈ h.reach v :=
  fun b hb => closed_reach h v a ha b (List.mem_flatMap.2 ⟨w, hw, hb⟩)

theorem within_copies (hp : h.Holds p) (hmarks : p.marks ⊆ s.marks) (hv : Within p v) :
    Within (s.plus h.cells.size (h.reach v).length) (h.copies v) := by
  intro c hc
  obtain ⟨a, ha, rfl⟩ := List.mem_map.1 hc
  intro w hw
  rw [values_rename] at hw
  obtain ⟨u, hu, rfl⟩ := List.mem_map.1 hw
  exact within_moved hmarks (hp.within a (hp.reach_subset hv a ha) u hu) (refs_subset_reach ha hu)

theorem Source.copies_rename (hp : Source σ p ρ s h h') (hv : Within p v) :
    h'.copies (rename σ v) =
      rename (ρ.shifted h.cells.size h'.cells.size) (h.copies v) := by
  unfold copies
  rw [hp.reach_rename hv, List.map_map, rename_list, List.map_map]
  refine List.map_congr_left fun a ha => ?_
  have hacell := hp.reach_subset hv a ha
  simp only [Function.comp_apply, hp.cell a hacell]
  exact rename_rename_cell fun w hw =>
    hp.moved_rename (hp.reach_subset hv) (hp.within a hacell w hw) (refs_subset_reach ha hw)

/-- A copy of a mirrored value is mirrored. It consists of new cells only, so its
source may lie outside the scope. -/
theorem Mirrors.copy (hm : Mirrors ρ s h h') (hp : Source σ p ρ s h h') (hv : Within p v) :
    Mirrors (ρ.shifted h.cells.size h'.cells.size) (s.plus h.cells.size (h.reach v).length)
      (h.copy v).2 (h'.copy (rename σ v)).2 ∧
    Within (s.plus h.cells.size (h.reach v).length) (h.copy v).1 ∧
    (h'.copy (rename σ v)).1 =
      rename (ρ.shifted h.cells.size h'.cells.size) (h.copy v).1 := by
  have hrefs : ∀ a ∈ v.refs, a ∈ h.reach v := fun a ha => mem_reach_of_mem_refs ha
  simp only [copy_eq]
  refine ⟨?_, within_moved hp.marks hv hrefs, ?_⟩
  · rw [hp.copies_rename hv]
    have hcs := within_copies hp.toHolds hp.marks hv
    rw [← length_copies] at hcs ⊢
    exact hm.append hcs
  · rw [hp.reach_rename hv]
    exact hp.moved_rename (hp.reach_subset hv) hv hrefs

theorem images_copy (h : Objects) (v : Value) :
    Images (Renaming.moved (h.reach v) h.cells.size) (h.reached v) h (h.copy v).2 where
  within a ha := within_reached_cell ha
  cell a ha := by
    obtain ⟨i, hi, hidx, he⟩ := exists_moved (show a ∈ h.reach v from ha) h.cells.size
    obtain ⟨_, hget, -⟩ := List.idxOf?_eq_some_iff.1 hidx
    rw [he, copy_eq, cell_append_add (by rw [length_copies]; exact hi)]
    simp only [copies, List.getElem_map, hget]
  inj a ha b hb hab := by
    obtain ⟨i, -, hidx, he⟩ := exists_moved (show a ∈ h.reach v from ha) h.cells.size
    obtain ⟨j, -, hjdx, he'⟩ := exists_moved (show b ∈ h.reach v from hb) h.cells.size
    obtain ⟨_, hget, -⟩ := List.idxOf?_eq_some_iff.1 hidx
    obtain ⟨_, hget', -⟩ := List.idxOf?_eq_some_iff.1 hjdx
    rw [he, he'] at hab
    obtain rfl : i = j := Nat.add_left_cancel hab
    exact hget.symm.trans hget'

theorem unfold_copy (h : Objects) (v : Value) :
    (h.copy v).2.unfold (h.copy v).1 = h.unfold v := by
  have hm := (images_copy h v).unfold_rename (within_reached h v)
  rw [copy_eq] at hm ⊢
  exact hm.trans (Unfolding.mapMark_id _)

theorem has_copy (h : Objects) (v : Value) : (h.copy v).2.Has (h.copy v).1 := by
  have hr := (images_copy h v).reach_rename (within_reached h v)
  rw [copy_eq] at hr ⊢
  intro b hb
  rw [hr] at hb
  obtain ⟨a, ha, rfl⟩ := List.mem_map.1 hb
  obtain ⟨i, hi, -, he⟩ := exists_moved ha h.cells.size
  rw [he, size_append, length_copies]
  exact Nat.add_lt_add_left hi _

end Objects
end NodeWalk
