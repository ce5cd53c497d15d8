import NodeWalk.Proofs.Kept
import NodeWalk.Proofs.Reach
import NodeWalk.Proofs.Unmarked
import NodeWalk.Value.Unfold

set_option autoImplicit false

/-!
# Mirrored stores

One store mirrors another in a scope if it has the cells of the scope under their
new numbers with their contents renamed. Whatever is read of a value in the scope is
then read of its image as well, up to the renaming: its kind, its items, what it
reaches and how it unfolds.
-/
namespace NodeWalk.Objects

/-- The cells of a scope are there and lead to nothing outside it. -/
structure Holds (h : Objects) (s : Scope) : Prop where
  size : ∀ a ∈ s.cells, a < h.cells.size
  within : ∀ a ∈ s.cells, Within s (h.cell a)
  mark : ∀ m ∈ s.marks, m < h.nextMark
  zero : 0 ∈ s.marks

/-- Every cell of the scope is found again in `h'`, renamed. -/
structure Images (ρ : Renaming) (s : Scope) (h h' : Objects) : Prop where
  within : ∀ a ∈ s.cells, Within s (h.cell a)
  cell : ∀ a ∈ s.cells, h'.cell (ρ.cell a) = rename ρ (h.cell a)
  inj : Set.InjOn ρ.cell s.cells

/-- `h'` has an image of the scope under `ρ`, and can be written alike. -/
structure Mirrors (ρ : Renaming) (s : Scope) (h h' : Objects) : Prop
    extends h.Holds s, Images ρ s h h' where
  imageSize : ∀ a ∈ s.cells, ρ.cell a < h'.cells.size
  imageMark : ∀ m ∈ s.marks, ρ.mark m < h'.nextMark
  injMark : Set.InjOn ρ.mark s.marks
  imageZero : ρ.mark 0 = 0

variable {h h' : Objects} {ρ : Renaming} {s : Scope} {v : Value}

theorem Holds.mirrors (hs : h.Holds s) : Mirrors .same s h h where
  toHolds := hs
  imageSize := hs.size
  cell a _ := (Carries.same (h.cell a)).symm
  inj := Set.injOn_id _
  imageMark := hs.mark
  injMark := Set.injOn_id _
  imageZero := rfl

theorem Holds.closed (hs : h.Holds s) : h.Closed s.cells :=
  fun a ha b hb => Within.cell_refs (hs.within a ha) b hb

theorem Holds.reach_subset (hs : h.Holds s) (hv : Within s v) : ∀ a ∈ h.reach v, a ∈ s.cells :=
  Objects.reach_subset hs.closed (Within.refs hv)

def reached (h : Objects) (v : Value) : Scope := ⟨{a | a ∈ h.reach v}, Set.univ⟩

theorem within_reached_of_refs {w : Value} (hw : ∀ a ∈ w.refs, a ∈ h.reach v) :
    Within (h.reached v) w := by
  cases w with
  | scalar a => exact fun _ _ => trivial
  | ref a => exact hw a (List.mem_singleton.2 rfl)

theorem within_reached (h : Objects) (v : Value) : Within (h.reached v) v :=
  within_reached_of_refs fun _ ha => mem_reach_of_mem_refs ha

theorem within_reached_cell {a : Addr} (ha : a ∈ h.reach v) : Within (h.reached v) (h.cell a) :=
  fun w hw => within_reached_of_refs fun b hb =>
    closed_reach h v a ha b (List.mem_flatMap.2 ⟨w, hw, hb⟩)

namespace Holds

theorem within_find? (hs : h.Holds s) (hv : Within s v) : Within s (h.find? v) := by
  cases v with
  | scalar a => exact within_none s
  | ref a => exact within_some.2 (hs.within a hv)

theorem within_items? (hs : h.Holds s) (hv : Within s v) : Within s (h.items? v) := by
  have hf := hs.within_find? hv
  unfold items?
  cases hc : h.find? v with
  | none => exact within_none s
  | some c =>
    rw [hc] at hf
    cases c with
    | array items => exact within_some.2 (within_array.1 (within_some.1 hf))
    | object es => exact within_none s

theorem within_entries? (hs : h.Holds s) (hv : Within s v) : Within s (h.entries? v) := by
  have hf := hs.within_find? hv
  unfold entries?
  cases hc : h.find? v with
  | none => exact within_none s
  | some c =>
    rw [hc] at hf
    cases c with
    | array items => exact within_none s
    | object es => exact within_some.2 (within_object.1 (within_some.1 hf))

end Holds

namespace Images

theorem find?_rename (hm : Images ρ s h h') (hv : Within s v) :
    h'.find? (rename ρ v) = rename ρ (h.find? v) := by
  cases v with
  | scalar a => rfl
  | ref a => exact congrArg some (hm.cell a hv)

theorem items?_rename (hm : Images ρ s h h') (hv : Within s v) :
    h'.items? (rename ρ v) = rename ρ (h.items? v) := by
  unfold items?
  rw [hm.find?_rename hv]
  cases h.find? v with
  | none => rfl
  | some c => cases c <;> rfl

theorem entries?_rename (hm : Images ρ s h h') (hv : Within s v) :
    h'.entries? (rename ρ v) = rename ρ (h.entries? v) := by
  unfold entries?
  rw [hm.find?_rename hv]
  cases h.find? v with
  | none => rfl
  | some c => cases c <;> rfl

theorem kind_rename (hm : Images ρ s h h') (hv : Within s v) :
    h'.kind (rename ρ v) = h.kind v := by
  cases v with
  | scalar a => exact Scalar.kind_mapMark ρ.mark a
  | ref a =>
    show (h'.cell (ρ.cell a)).kind = (h.cell a).kind
    rw [hm.cell a hv]
    cases h.cell a <;> rfl

theorem isTrue_rename (hm : Images ρ s h h') (hv : Within s v) :
    h'.isTrue (rename ρ v) = h.isTrue v := by
  cases v with
  | scalar a => cases a <;> rfl
  | ref a =>
    show (!(h'.cell (ρ.cell a)).isEmpty) = !(h.cell a).isEmpty
    rw [hm.cell a hv]
    cases h.cell a <;> simp [rename, Cell.map, Cell.isEmpty, Cell.values]

theorem refsOf_rename (hm : Images ρ s h h') {a : Addr} (ha : a ∈ s.cells) :
    h'.refsOf (ρ.cell a) = (h.refsOf a).map ρ.cell := by
  rw [refsOf, hm.cell a ha, refs_rename_cell, refsOf]

theorem mem_map_iff (hm : Images ρ s h h') {as : List Addr} (has : ∀ a ∈ as, a ∈ s.cells)
    {a : Addr} (ha : a ∈ s.cells) : ρ.cell a ∈ as.map ρ.cell ↔ a ∈ as := by
  constructor
  · intro hmem
    obtain ⟨b, hb, he⟩ := List.mem_map.1 hmem
    exact hm.inj (has b hb) ha he ▸ hb
  · exact List.mem_map_of_mem

theorem newcomers_map (hm : Images ρ s h h') {seen as : List Addr}
    (hseen : ∀ a ∈ seen, a ∈ s.cells) (has : ∀ a ∈ as, a ∈ s.cells) :
    newcomers (seen.map ρ.cell) (as.map ρ.cell) = (newcomers seen as).map ρ.cell := by
  have hf (found : List Addr) (hfound : ∀ a ∈ found, a ∈ s.cells) :
      (as.map ρ.cell).foldl (fun found a =>
          if a ∈ seen.map ρ.cell ∨ a ∈ found then found else found ++ [a]) (found.map ρ.cell) =
        (as.foldl (fun found a => if a ∈ seen ∨ a ∈ found then found else found ++ [a])
          found).map ρ.cell := by
    induction as generalizing found with
    | nil => rfl
    | cons b as ih =>
      obtain ⟨hb, has⟩ := List.forall_mem_cons.1 has
      rw [List.map_cons, List.foldl_cons, List.foldl_cons]
      simp only [hm.mem_map_iff hseen hb, hm.mem_map_iff hfound hb]
      by_cases hc : b ∈ seen ∨ b ∈ found
      · rw [if_pos hc, if_pos hc]
        exact ih has found hfound
      · rw [if_neg hc, if_neg hc]
        have hnew : ∀ a ∈ found ++ [b], a ∈ s.cells := by
          intro a ha
          rcases List.mem_append.1 ha with ha | ha
          · exact hfound a ha
          · exact List.mem_singleton.1 ha ▸ hb
        simpa using ih has (found ++ [b]) hnew
  exact hf [] fun _ h => nomatch h

theorem closed (hm : Images ρ s h h') : h.Closed s.cells :=
  fun a ha b hb => Within.cell_refs (hm.within a ha) b hb

theorem found_subset (hc : h.Closed s.cells) {fr seen : List Addr} (hfr : ∀ a ∈ fr, a ∈ s.cells) :
    ∀ a ∈ h.found fr seen, a ∈ s.cells := by
  intro a ha
  obtain ⟨b, hb, hab⟩ := List.mem_flatMap.1 (mem_newcomers.1 ha).1
  exact hc b (hfr b hb) a hab

theorem found_rename (hm : Images ρ s h h') {fr seen : List Addr}
    (hfr : ∀ a ∈ fr, a ∈ s.cells) (hseen : ∀ a ∈ seen, a ∈ s.cells) :
    h'.found (fr.map ρ.cell) (seen.map ρ.cell) = (h.found fr seen).map ρ.cell := by
  have hrefs : (fr.map ρ.cell).flatMap h'.refsOf = (fr.flatMap h.refsOf).map ρ.cell := by
    induction fr with
    | nil => rfl
    | cons a fr ih =>
      obtain ⟨ha, hfr⟩ := List.forall_mem_cons.1 hfr
      rw [List.map_cons, List.flatMap_cons, List.flatMap_cons, List.map_append, ih hfr,
        hm.refsOf_rename ha]
  unfold found
  rw [hrefs]
  refine hm.newcomers_map hseen fun a ha => ?_
  obtain ⟨b, hb, hab⟩ := List.mem_flatMap.1 ha
  exact hm.closed b (hfr b hb) a hab

theorem closes_rename (hm : Images ρ s h h') {fr seen out : List Addr}
    (hc : Closes h fr seen out) (hfr : ∀ a ∈ fr, a ∈ s.cells) (hseen : ∀ a ∈ seen, a ∈ s.cells) :
    Closes h' (fr.map ρ.cell) (seen.map ρ.cell) (out.map ρ.cell) := by
  induction hc with
  | done seen => exact .done _
  | @round c fr seen _ _ ih =>
    have hf : ∀ a ∈ h.found (c :: fr) seen, a ∈ s.cells := found_subset hm.closed hfr
    refine .round ?_
    have hfound := hm.found_rename hfr hseen
    rw [List.map_cons] at hfound
    rw [hfound, ← List.map_append]
    refine ih hf fun a ha => ?_
    rcases List.mem_append.1 ha with ha | ha
    · exact hseen a ha
    · exact hf a ha

theorem reach_rename (hm : Images ρ s h h') (hv : Within s v) :
    h'.reach (rename ρ v) = (h.reach v).map ρ.cell := by
  have hrefs := Within.refs hv
  have hc := hm.closes_rename (closes_reach h v) hrefs hrefs
  rw [← refs_rename] at hc
  exact (closes_reach h' _).unique hc

theorem idxOf?_map (hm : Images ρ s h h') {as : List Addr} (has : ∀ a ∈ as, a ∈ s.cells)
    {a : Addr} (ha : a ∈ s.cells) : (as.map ρ.cell).idxOf? (ρ.cell a) = as.idxOf? a := by
  induction as with
  | nil => rfl
  | cons b as ih =>
    obtain ⟨hb, has⟩ := List.forall_mem_cons.1 has
    have he : (ρ.cell b == ρ.cell a) = (b == a) := by
      by_cases hba : b = a
      · simp [hba]
      · have : ρ.cell b ≠ ρ.cell a := fun hc => hba (hm.inj hb ha hc)
        simp [hba, this]
    rw [List.map_cons, List.idxOf?_cons, List.idxOf?_cons, he, ih has]

theorem container_rename (hm : Images ρ s h h') {a : Addr} (ha : a ∈ s.cells) :
    h'.container (ρ.cell a) = h.container a := by
  unfold container
  rw [hm.cell a ha]
  cases h.cell a <;> rfl

theorem unfoldIn_rename (hm : Images ρ s h h') (depth : Nat) {outer : List Addr}
    (hout : ∀ a ∈ outer, a ∈ s.cells) (hv : Within s v) :
    h'.unfoldIn depth (outer.map ρ.cell) (rename ρ v) =
      (h.unfoldIn depth outer v).mapMark ρ.mark := by
  induction depth generalizing outer v with
  | zero =>
    cases v with
    | scalar a => rfl
    | ref a =>
      simp only [unfoldIn, rename_ref, hm.container_rename hv, List.length_map, Unfolding.mapMark]
  | succ depth ih =>
    cases v with
    | scalar a => rfl
    | ref a =>
      simp only [unfoldIn, rename_ref, hm.idxOf?_map hout hv]
      cases outer.idxOf? a with
      | some i => simp only [hm.container_rename hv, Unfolding.mapMark]
      | none =>
        have hw := hm.within a hv
        have hout' : ∀ b ∈ a :: outer, b ∈ s.cells := List.forall_mem_cons.2 ⟨hv, hout⟩
        rw [hm.cell a hv]
        cases hc : h.cell a with
        | array items =>
          rw [hc] at hw
          simp only [rename_array, Unfolding.mapMark, Unfolding.mapMarkItems_eq_map, rename_list,
            List.map_map, Unfolding.array.injEq]
          exact List.map_congr_left fun w hw' => ih hout' (within_array.1 hw w hw')
        | object es =>
          rw [hc] at hw
          simp only [rename_object, Unfolding.mapMark, Unfolding.mapMarkEntries_eq_map,
            rename_pairs, List.map_map, Unfolding.object.injEq]
          refine List.map_congr_left fun e he => Prod.ext rfl ?_
          exact ih hout' (within_object.1 hw e he)

theorem unfold_rename (hm : Images ρ s h h') (hv : Within s v) :
    h'.unfold (rename ρ v) = (h.unfold v).mapMark ρ.mark := by
  unfold Objects.unfold
  rw [hm.reach_rename hv, List.length_map]
  have houter : ∀ a ∈ ([] : List Addr), a ∈ s.cells := List.forall_mem_nil _
  exact hm.unfoldIn_rename _ houter hv

theorem unmarked_unfold (hm : Images ρ s h h') (hv : Within s v) :
    (h'.unfold (rename ρ v)).unmarked = (h.unfold v).unmarked := by
  rw [hm.unfold_rename hv, Unfolding.unmarked_mapMark]

theorem shown?_rename (hm : Images ρ s h h') (hv : Within s v) :
    h'.shown? (rename ρ v) = h.shown? v := by
  rw [Objects.shown?, hm.unfold_rename hv, Unfolding.shown?_mapMark, Objects.shown?]

theorem plain?_rename (hm : Images ρ s h h') (hv : Within s v) :
    h'.plain? (rename ρ v) = h.plain? v := by
  rw [Objects.plain?, hm.unfold_rename hv, Unfolding.plain?_mapMark, Objects.plain?]

end Images

def Has (h : Objects) (v : Value) : Prop := ∀ a ∈ h.reach v, a < h.cells.size

def Unchanged (h g : Objects) (v : Value) : Prop := ∀ a ∈ h.reach v, g.cell a = h.cell a

namespace Unchanged

variable {g k : Objects} {a : Addr}

theorem refl (h : Objects) (v : Value) : h.Unchanged h v := fun _ _ => rfl

theorem images (hv : h.Unchanged g v) : Images .same (h.reached v) h g where
  within _ ha := within_reached_cell ha
  cell a ha := (hv a ha).trans (Carries.same _).symm
  inj := Set.injOn_id _

theorem reach_eq (hv : h.Unchanged g v) : g.reach v = h.reach v := by
  have hr := hv.images.reach_rename (within_reached h v)
  rw [Carries.same] at hr
  exact hr.trans (List.map_id _)

theorem mem_reach (hv : h.Unchanged g v) (ha : a ∈ g.reach v) : a ∈ h.reach v :=
  hv.reach_eq ▸ ha

theorem unfold (hv : h.Unchanged g v) : g.unfold v = h.unfold v := by
  have hu := hv.images.unfold_rename (within_reached h v)
  rw [Carries.same] at hu
  exact hu.trans (Unfolding.mapMark_id _)

theorem trans (hv : h.Unchanged g v) (hv' : g.Unchanged k v) : h.Unchanged k v :=
  fun a ha => (hv' a (hv.reach_eq ▸ ha)).trans (hv a ha)

end Unchanged

namespace Has

variable {g : Objects}

theorem unchanged (hv : h.Has v) (hk : h.Kept g) : h.Unchanged g v :=
  fun a ha => hk.cell a (hv a ha)

theorem reach_kept (hv : h.Has v) (hk : h.Kept g) : g.reach v = h.reach v :=
  (hv.unchanged hk).reach_eq

theorem kept (hv : h.Has v) (hk : h.Kept g) : g.Has v :=
  fun a ha => Nat.lt_of_lt_of_le (hv a ((hv.unchanged hk).mem_reach ha)) hk.size

theorem unfold (hv : h.Has v) (hk : h.Kept g) : g.unfold v = h.unfold v :=
  (hv.unchanged hk).unfold

end Has

end NodeWalk.Objects
