import NodeWalk.Proofs.LocalBehavior
import NodeWalk.Value.Compare

set_option autoImplicit false

/-!
# Comparison of mirrored values

A comparison looks at what values are, never at where they lie. One question of
identity it does ask: an item of a container counts as equal to itself. Renaming is
injective in a scope, so that question has the same answer on both sides.
-/
namespace NodeWalk

variable {ρ : Renaming} {s : Scope} {h h' : Objects} {v w : Value}

namespace Scalar

theorem agree_mapMark (f g : Nat → Nat) (a b : Scalar) :
    (a.mapMark f).agree (b.mapMark g) = a.agree b := by
  cases a <;> cases b <;> rfl

theorem ordered?_mapMark (f g : Nat → Nat) (op : Comparison) (a b : Scalar) :
    (a.mapMark f).ordered? op (b.mapMark g) = a.ordered? op b := by
  cases a <;> cases b <;> rfl

end Scalar

/-- Equality of items with so many levels compared: the same object is equal to itself. -/
def Objects.sameWithin (h : Objects) (depth : Nat) (v w : Value) : Option Bool :=
  if v = w then some true else h.equalWithin depth v w

namespace Objects.Mirrors

theorem rename_scalar_inj (hm : Mirrors ρ s h h') {a b : Scalar} (ha : Within s a)
    (hb : Within s b) : rename ρ a = rename ρ b ↔ a = b := by
  refine ⟨fun he => ?_, fun he => he ▸ rfl⟩
  cases a with
  | float x =>
    cases b with
    | float y =>
      rw [rename_float, rename_float, Scalar.float.injEq, Binary64.mk.injEq] at he
      have hmark := hm.injMark (ha x.mark ⟨x, rfl, rfl⟩) (hb y.mark ⟨y, rfl, rfl⟩) he.2
      have hxy : x = y := by
        cases x
        cases y
        exact congrArg₂ Binary64.mk he.1 hmark
      rw [hxy]
    | _ => exact absurd he (by simp [rename_scalar_of_not_float])
  | _ =>
    cases b with
    | float y => exact absurd he (by simp [rename_scalar_of_not_float])
    | _ => exact he

theorem rename_inj (hm : Mirrors ρ s h h') (hv : Within s v) (hw : Within s w) :
    rename ρ v = rename ρ w ↔ v = w := by
  cases v with
  | scalar a =>
    cases w with
    | scalar b => simp [hm.rename_scalar_inj hv hw]
    | ref b => simp
  | ref a =>
    cases w with
    | scalar b => simp
    | ref b =>
      rw [rename_ref, rename_ref, Value.ref.injEq, Value.ref.injEq]
      exact hm.inj.eq_iff hv hw

theorem allM_rename {α : Type} {f f' : α → Option Bool} {g : α → α} {as : List α}
    (hf : ∀ a ∈ as, f' (g a) = f a) : (as.map g).allM f' = as.allM f := by
  induction as with
  | nil => rfl
  | cons a as ih =>
    obtain ⟨ha, has⟩ := List.forall_mem_cons.1 hf
    rw [List.map_cons, List.allM_cons, List.allM_cons, ha, ih has]

section Parts

variable {f f' : Value → Value → Option Bool} {vs ws : List Value} {es fs : Entries Value}

theorem allM_items_rename
    (hf : ∀ x y, Within s x → Within s y → f' (rename ρ x) (rename ρ y) = f x y)
    (hvs : Within s vs) (hws : Within s ws) :
    (((rename ρ vs).zip (rename ρ ws)).allM fun p => f' p.1 p.2) =
      (vs.zip ws).allM fun p => f p.1 p.2 := by
  rw [rename_list, rename_list, List.zip_map]
  refine allM_rename fun p hp => ?_
  obtain ⟨x, y⟩ := p
  obtain ⟨hx, hy⟩ := List.of_mem_zip hp
  exact hf x y (hvs x hx) (hws y hy)

theorem allM_entries_rename
    (hf : ∀ x y, Within s x → Within s y → f' (rename ρ x) (rename ρ y) = f x y)
    (hes : Within s es) (hfs : Within s fs) :
    ((rename ρ es).allM fun e => match Entries.get? e.1 (rename ρ fs) with
      | some y => f' e.2 y
      | none => some false) =
    es.allM fun e => match Entries.get? e.1 fs with
      | some y => f e.2 y
      | none => some false := by
  refine allM_rename fun e he => ?_
  have hget := Entries.within_get? hfs e.1
  simp only [Entries.get?_rename]
  cases hy : Entries.get? e.1 fs with
  | none => rfl
  | some y =>
    rw [hy] at hget
    exact hf e.2 y (hes e he) (within_some.1 hget)

end Parts

theorem equalWithin_rename (hm : Mirrors ρ s h h') (depth : Nat) (hv : Within s v)
    (hw : Within s w) :
    h'.equalWithin depth (rename ρ v) (rename ρ w) = h.equalWithin depth v w := by
  induction depth generalizing v w with
  | zero => rfl
  | succ depth ih =>
    have same (x y : Value) (hx : Within s x) (hy : Within s y) :
        h'.sameWithin depth (rename ρ x) (rename ρ y) = h.sameWithin depth x y := by
      simp only [sameWithin, hm.rename_inj hx hy, ih hx hy]
    cases v with
    | scalar a =>
      cases w with
      | scalar b => exact congrArg some (Scalar.agree_mapMark _ _ a b)
      | ref b => rfl
    | ref a =>
      cases w with
      | scalar b => rfl
      | ref b =>
        have ha := hm.within a hv
        have hb := hm.within b hw
        simp only [equalWithin, rename_ref, hm.cell a hv, hm.cell b hw]
        cases hca : h.cell a with
        | array vs =>
          rw [hca] at ha
          cases hcb : h.cell b with
          | array ws =>
            rw [hcb] at hb
            simp only [rename_array, length_rename]
            split
            · exact allM_items_rename same (within_array.1 ha) (within_array.1 hb)
            · rfl
          | object fs => rfl
        | object es =>
          rw [hca] at ha
          cases hcb : h.cell b with
          | array ws => rfl
          | object fs =>
            rw [hcb] at hb
            simp only [rename_object, length_rename]
            split
            · exact allM_entries_rename same (within_object.1 ha) (within_object.1 hb)
            · rfl

theorem maxDepth_rename (hm : Mirrors ρ s h h') (hv : Within s v) (hw : Within s w) :
    h'.maxDepth (rename ρ v) (rename ρ w) = h.maxDepth v w := by
  simp only [maxDepth, hm.reach_rename hv, hm.reach_rename hw, List.length_map]

theorem equal_rename (hm : Mirrors ρ s h h') (hv : Within s v) (hw : Within s w) :
    h'.equal (rename ρ v) (rename ρ w) = h.equal v w := by
  unfold equal
  rw [hm.maxDepth_rename hv hw, hm.equalWithin_rename _ hv hw]

theorem sameItem_rename (hm : Mirrors ρ s h h') (hv : Within s v) (hw : Within s w) :
    h'.sameItem (rename ρ v) (rename ρ w) = h.sameItem v w := by
  unfold sameItem
  simp only [hm.rename_inj hv hw, hm.equal_rename hv hw]

theorem firstDifference_rename (hm : Mirrors ρ s h h') {vs ws : List Value} (hv : Within s vs)
    (hw : Within s ws) :
    h'.firstDifference (rename ρ vs) (rename ρ ws) =
        (h.firstDifference vs ws).map (fun p => (rename ρ p.1, rename ρ p.2)) ∧
      ∀ p, h.firstDifference vs ws = .ok p → Within s p.1 ∧ Within s p.2 := by
  induction vs generalizing ws with
  | nil =>
    refine ⟨by cases ws <;> rfl, fun p hp => ?_⟩
    have hp : Except.ok ([], ws) = (.ok p : Except Fault _) := by
      cases ws <;> exact hp
    cases hp
    exact ⟨within_nil s, hw⟩
  | cons x vs ih =>
    cases ws with
    | nil =>
      refine ⟨rfl, fun p hp => ?_⟩
      cases hp
      exact ⟨hv, within_nil s⟩
    | cons y ws =>
      obtain ⟨hx, hvs⟩ := within_cons.1 hv
      obtain ⟨hy, hws⟩ := within_cons.1 hw
      obtain ⟨ihe, ihw⟩ := ih hvs hws
      have hsame := hm.sameItem_rename hx hy
      simp only [rename_cons, firstDifference, hsame]
      cases h.sameItem x y with
      | error f => exact ⟨rfl, fun p hp => (nomatch hp)⟩
      | ok b =>
        cases b with
        | true => exact ⟨ihe, ihw⟩
        | false =>
          refine ⟨rfl, fun p hp => ?_⟩
          cases hp
          exact ⟨hv, hw⟩

theorem orderedWithin_succ {g : Objects} (op : Comparison) (depth : Nat) {x y : Value}
    (hxy : ∀ a b, ¬ (x = .scalar a ∧ y = .scalar b)) :
    g.orderedWithin op (depth + 1) x y = match g.items? x, g.items? y with
      | some vs, some ws => do
        match ← g.firstDifference vs ws with
        | (v :: _, w :: _) => g.orderedWithin op depth v w
        | (vs, ws) => .ok (op.holds (compare vs.length ws.length))
      | _, _ => .error (.unordered op (g.kind x) (g.kind y)) := by
  cases x with
  | ref a => rfl
  | scalar a =>
    cases y with
    | ref b => rfl
    | scalar b => exact absurd ⟨rfl, rfl⟩ (hxy a b)

theorem orderedWithin_rename (hm : Mirrors ρ s h h') (op : Comparison) (depth : Nat)
    (hv : Within s v) (hw : Within s w) :
    h'.orderedWithin op depth (rename ρ v) (rename ρ w) = h.orderedWithin op depth v w := by
  induction depth generalizing v w with
  | zero => rfl
  | succ depth ih =>
    have arrays (hne : ∀ a b, ¬ (v = .scalar a ∧ w = .scalar b)) :
        h'.orderedWithin op (depth + 1) (rename ρ v) (rename ρ w) =
          h.orderedWithin op (depth + 1) v w := by
      have hne' (a b : Scalar) : ¬ (rename ρ v = .scalar a ∧ rename ρ w = .scalar b) := by
        cases v with
        | ref a => simp
        | scalar c =>
          cases w with
          | ref b => simp
          | scalar d => exact absurd ⟨rfl, rfl⟩ (hne c d)
      rw [orderedWithin_succ op depth hne, orderedWithin_succ op depth hne', hm.items?_rename hv,
        hm.items?_rename hw, hm.kind_rename hv, hm.kind_rename hw]
      have hvi := hm.within_items? hv
      have hwi := hm.within_items? hw
      cases hx : h.items? v with
      | none => rfl
      | some vs =>
        cases hy : h.items? w with
        | none => rfl
        | some ws =>
          rw [hx] at hvi
          rw [hy] at hwi
          obtain ⟨hfd, hfw⟩ := hm.firstDifference_rename (within_some.1 hvi) (within_some.1 hwi)
          simp only [rename_some, hfd]
          cases hd : h.firstDifference vs ws with
          | error f => rfl
          | ok p =>
            obtain ⟨xs, ys⟩ := p
            obtain ⟨hxs, hys⟩ := hfw _ hd
            cases xs with
            | nil => simp [Except.map, bind, Except.bind]
            | cons x xs =>
              cases ys with
              | nil => simp [Except.map, bind, Except.bind]
              | cons y ys => exact ih (within_cons.1 hxs).1 (within_cons.1 hys).1
    cases v with
    | ref a => exact arrays (by simp)
    | scalar a =>
      cases w with
      | ref b => exact arrays (by simp)
      | scalar b =>
        have ho : (rename ρ a).ordered? op (rename ρ b) = a.ordered? op b :=
          Scalar.ordered?_mapMark _ _ op a b
        have ha : (rename ρ a).kind = a.kind := Scalar.kind_mapMark ρ.mark a
        have hb : (rename ρ b).kind = b.kind := Scalar.kind_mapMark ρ.mark b
        simp only [orderedWithin, rename_scalar, ho, ha, hb]

theorem compares_rename (hm : Mirrors ρ s h h') (op : Comparison) (hv : Within s v)
    (hw : Within s w) : h'.compares op (rename ρ v) (rename ρ w) = h.compares op v w := by
  cases op <;>
    simp only [compares, hm.equal_rename hv hw, hm.maxDepth_rename hv hw,
      hm.orderedWithin_rename _ _ hv hw]

end Objects.Mirrors
end NodeWalk
