import Mathlib.Data.List.Forall2
import NodeWalk.Proofs.MirroredComparison
import NodeWalk.Proofs.TreeOrder
import NodeWalk.Run.BuiltIn

set_option autoImplicit false

/-!
# Comparison as a coherent order

Stored values without floating-point numbers, in which no container contains itself, compare like
the trees that they unfold to. So equality of them is an equivalence, and the four comparisons by
order answer to one ordering that goes with it, or none of them answers.
-/
namespace NodeWalk

namespace Objects

variable {h : Objects} {v w x y : Value} {j k : Json} {a b : Addr} {depth : Nat}
  {vs ws : List Value} {js ks : List Json} {es fs : Entries Value} {ds gs : List (Text × Json)}

structure Exact (h : Objects) (v : Value) : Prop where
  grounded : h.Grounded v
  scalars : h.Every Scalar.Exact v

structure Shows (h : Objects) (v : Value) (j : Json) : Prop where
  grounded : h.Grounded v
  exact : j.Exact
  tree : h.unfold v = j.unfolding

theorem exact_of_every (hj : j.Every Scalar.Exact) (hd : j.unfolding.Distinct) : j.Exact := by
  induction hj with
  | scalar hs => exact .scalar hs
  | @array items _ ih =>
    rw [Json.unfolding, Json.unfoldings_eq] at hd
    cases hd with
    | array hitems =>
      exact .array fun j hj => ih j hj (hitems _ (List.mem_map_of_mem hj))
  | @object entries _ ih =>
    rw [Json.unfolding, Json.memberUnfoldings_eq] at hd
    cases hd with
    | object hkeys hentries =>
      refine .object ?_ fun e he => ih e he (hentries _ (List.mem_map_of_mem he))
      rw [Entries.keys, List.map_map] at hkeys
      exact hkeys

theorem Exact.exists_shows (hv : h.Exact v) (hh : h.Keyed) : ∃ j, h.Shows v j := by
  obtain ⟨j, hj, htree⟩ := hv.grounded.exists_json hv.scalars
  exact ⟨j, hv.grounded, exact_of_every hj (htree ▸ hh.distinct v), htree⟩

namespace Shows

theorem of_scalar {s : Scalar} (hv : h.Shows (.scalar s) j) : j = .scalar s ∧ s.Exact := by
  have htree : (Json.scalar s).unfolding = j.unfolding := hv.tree
  obtain rfl := Json.unfolding_injective htree
  cases hv.exact with
  | scalar hs => exact ⟨rfl, hs⟩

theorem items (hvs : ∀ x ∈ vs, h.Grounded x) (hjs : ∀ j ∈ js, j.Exact)
    (htree : vs.map h.unfold = js.map Json.unfolding) : List.Forall₂ h.Shows vs js := by
  induction vs generalizing js with
  | nil =>
    cases js with
    | nil => exact .nil
    | cons j js => cases htree
  | cons v vs ih =>
    cases js with
    | nil => cases htree
    | cons j js =>
      obtain ⟨hv, hvs⟩ := List.forall_mem_cons.1 hvs
      obtain ⟨hj, hjs⟩ := List.forall_mem_cons.1 hjs
      obtain ⟨hfirst, hrest⟩ := List.cons_eq_cons.1 htree
      exact .cons ⟨hv, hj, hfirst⟩ (ih hvs hjs hrest)

abbrev Member (h : Objects) (e : Text × Value) (d : Text × Json) : Prop :=
  e.1 = d.1 ∧ h.Shows e.2 d.2

theorem members (hes : ∀ e ∈ es, h.Grounded e.2) (hds : ∀ d ∈ ds, d.2.Exact)
    (htree : (es.map fun e => (e.1, h.unfold e.2)) = ds.map fun d => (d.1, d.2.unfolding)) :
    List.Forall₂ (Member h) es ds := by
  induction es generalizing ds with
  | nil =>
    cases ds with
    | nil => exact .nil
    | cons d ds => cases htree
  | cons e es ih =>
    cases ds with
    | nil => cases htree
    | cons d ds =>
      obtain ⟨he, hes⟩ := List.forall_mem_cons.1 hes
      obtain ⟨hd, hds⟩ := List.forall_mem_cons.1 hds
      obtain ⟨hfirst, hrest⟩ := List.cons_eq_cons.1 htree
      obtain ⟨hkey, htree⟩ := Prod.mk.inj hfirst
      exact .cons ⟨hkey, he, hd, htree⟩ (ih hes hds hrest)

theorem of_ref (hv : h.Shows (.ref a) j) :
    (∃ vs js, h.cell a = .array vs ∧ j = .array js ∧ List.Forall₂ h.Shows vs js) ∨
      ∃ es ds, h.cell a = .object es ∧ j = .object ds ∧ List.Forall₂ (Member h) es ds := by
  have htree := hv.tree
  have hinside {x : Value} (hx : x ∈ (h.cell a).values) : h.Grounded x :=
    hv.grounded.inside (mem_reach_ref h a) hx
  rw [unfold_ref hv.grounded.acyclic] at htree
  cases hc : h.cell a with
  | array vs =>
    rw [hc] at htree hinside
    cases hv.exact with
    | scalar _ => cases htree
    | @array js hjs =>
      rw [Json.unfolding, Json.unfoldings_eq] at htree
      exact .inl ⟨vs, js, rfl, rfl, items (fun x hx => hinside hx) hjs (Unfolding.array.inj htree)⟩
    | object _ _ => cases htree
  | object es =>
    rw [hc] at htree hinside
    cases hv.exact with
    | scalar _ => cases htree
    | array _ => cases htree
    | @object ds _ hds =>
      rw [Json.unfolding, Json.memberUnfoldings_eq] at htree
      exact .inr ⟨es, ds, rfl, rfl, members
        (fun e he => hinside (List.mem_map_of_mem (f := Prod.snd) he)) hds
        (Unfolding.object.inj htree)⟩

theorem eq_scalar {s : Scalar} (hv : h.Shows v (.scalar s)) : v = .scalar s := by
  cases v with
  | scalar t =>
    obtain ⟨hj, -⟩ := hv.of_scalar
    exact congrArg Value.scalar (Json.scalar.inj hj).symm
  | ref a => obtain ⟨_, _, -, hj, -⟩ | ⟨_, _, -, hj, -⟩ := hv.of_ref <;> cases hj

theorem items_cases (hv : h.Shows v j) :
    (∃ a vs js, v = .ref a ∧ h.cell a = .array vs ∧ h.items? v = some vs ∧ j = .array js ∧
      List.Forall₂ h.Shows vs js) ∨ h.items? v = none ∧ ∀ js, j ≠ .array js := by
  cases v with
  | scalar s =>
    obtain ⟨rfl, -⟩ := hv.of_scalar
    exact .inr ⟨rfl, by simp⟩
  | ref a =>
    obtain ⟨vs, js, hc, rfl, hvs⟩ | ⟨es, ds, hc, rfl, -⟩ := hv.of_ref
    · exact .inl ⟨a, vs, js, rfl, hc, by simp only [items?, find?, hc], rfl, hvs⟩
    · exact .inr ⟨by simp only [items?, find?, hc], by simp⟩

theorem unique (hv : h.Shows v j) (hv' : h.Shows v k) : j = k :=
  Json.unfolding_injective (hv.tree.symm.trans hv'.tree)

end Shows

theorem reach_mul_lt (ha : h.Grounded (.ref a)) (hb : h.Grounded (.ref b))
    (hx : x ∈ (h.cell a).values) (hy : y ∈ (h.cell b).values) :
    (h.reach x).length * (h.reach y).length <
      (h.reach (.ref a)).length * (h.reach (.ref b)).length := by
  have hlt := (ha.acyclic.reach_lt hx).2
  have hle := Nat.le_of_lt (hb.acyclic.reach_lt hy).2
  exact Nat.mul_lt_mul_of_lt_of_le hlt hle (List.length_pos_of_mem (mem_reach_ref h b))

theorem allM_zip {f : Value → Value → Option Bool} (hvs : List.Forall₂ h.Shows vs js)
    (hws : List.Forall₂ h.Shows ws ks) (hlength : vs.length = ws.length)
    (hf : ∀ x ∈ vs, ∀ y ∈ ws, ∀ j k, h.Shows x j → h.Shows y k → f x y = some (j.equal k)) :
    ((vs.zip ws).allM fun p => f p.1 p.2) = some (Json.equalItems js ks) := by
  induction hvs generalizing ws ks with
  | nil =>
    obtain rfl := List.eq_nil_of_length_eq_zero hlength.symm
    cases hws
    rfl
  | @cons v j vs js hv hvs ih =>
    cases hws with
    | nil => cases hlength
    | @cons w k ws ks hw hws =>
      have hfirst : f v w = some (j.equal k) :=
        hf v List.mem_cons_self w List.mem_cons_self j k hv hw
      have hrest := ih hws (Nat.succ.inj hlength) fun x hx y hy =>
        hf x (List.mem_cons_of_mem v hx) y (List.mem_cons_of_mem w hy)
      rw [List.zip_cons_cons, List.allM_cons, hfirst, Json.equalItems]
      cases j.equal k with
      | true => exact hrest
      | false => rfl

theorem length_eq_of_equalItems (hjs : Json.equalItems js ks = true) : js.length = ks.length := by
  induction js generalizing ks with
  | nil =>
    cases ks with
    | nil => rfl
    | cons k ks => cases hjs
  | cons j js ih =>
    cases ks with
    | nil => cases hjs
    | cons k ks =>
      rw [Json.equalItems, Bool.and_eq_true] at hjs
      exact congrArg Nat.succ (ih hjs.2)

theorem get?_shows (hfs : List.Forall₂ (Shows.Member h) fs gs) (key : Text) :
    Option.Rel h.Shows (Entries.get? key fs) (Entries.get? key gs) := by
  induction hfs with
  | nil => exact .none
  | @cons f g fs gs hfg _ ih =>
    obtain ⟨key', w⟩ := f
    obtain ⟨_, k⟩ := g
    obtain ⟨rfl, hw⟩ := hfg
    simp only [Entries.get?]
    split
    · exact .some hw
    · exact ih

theorem allM_members {f : Value → Value → Option Bool} (hes : List.Forall₂ (Shows.Member h) es ds)
    (hfs : List.Forall₂ (Shows.Member h) fs gs)
    (hf : ∀ e ∈ es, ∀ d ∈ fs, ∀ j k, h.Shows e.2 j → h.Shows d.2 k → f e.2 d.2 = some (j.equal k)) :
    (es.allM fun e => match Entries.get? e.1 fs with
      | some w => f e.2 w
      | none => some false) = some (Json.equalMembers ds gs) := by
  induction hes with
  | nil => rfl
  | @cons e d es ds hed _ ih =>
    obtain ⟨key, v⟩ := e
    obtain ⟨_, j⟩ := d
    obtain ⟨rfl, hv⟩ := hed
    have hrest := ih fun e he => hf e (List.mem_cons_of_mem _ he)
    have hget := get?_shows hfs key
    rw [List.allM_cons, Json.equalMembers]
    dsimp only
    cases hw : Entries.get? key fs with
    | none =>
      rw [hw] at hget
      cases hk : Entries.get? key gs with
      | none => rfl
      | some k => rw [hk] at hget; cases hget
    | some w =>
      rw [hw] at hget
      cases hk : Entries.get? key gs with
      | none => rw [hk] at hget; cases hget
      | some k =>
        rw [hk] at hget
        cases hget with
        | some hwk =>
          have hfirst : f v w = some (j.equal k) :=
            hf _ List.mem_cons_self _ (Entries.mem_of_get? hw) j k hv hwk
          dsimp only
          rw [hfirst]
          cases j.equal k with
          | true => exact hrest
          | false => rfl

theorem equalWithin_eq (hv : h.Shows v j) (hw : h.Shows w k)
    (hd : (h.reach v).length * (h.reach w).length < depth) :
    h.equalWithin depth v w = some (j.equal k) := by
  induction depth generalizing v w j k with
  | zero => exact absurd hd (Nat.not_lt_zero _)
  | succ depth ih =>
    have same {x y : Value} {p q : Json} (hx : h.Shows x p) (hy : h.Shows y q)
        (hlt : (h.reach x).length * (h.reach y).length < depth) :
        h.sameWithin depth x y = some (p.equal q) := by
      unfold sameWithin
      split
      · rename_i hxy
        subst hxy
        rw [hx.unique hy, Json.equal_refl hy.exact]
      · exact ih hx hy hlt
    cases v with
    | scalar s =>
      obtain ⟨rfl, -⟩ := hv.of_scalar
      cases w with
      | scalar t =>
        obtain ⟨rfl, -⟩ := hw.of_scalar
        rw [Json.equal]
        rfl
      | ref b =>
        obtain ⟨_, _, -, rfl, -⟩ | ⟨_, _, -, rfl, -⟩ := hw.of_ref <;> simp [equalWithin, Json.equal]
    | ref a =>
      cases w with
      | scalar t =>
        obtain ⟨rfl, -⟩ := hw.of_scalar
        obtain ⟨_, _, -, rfl, -⟩ | ⟨_, _, -, rfl, -⟩ := hv.of_ref <;> simp [equalWithin, Json.equal]
      | ref b =>
        have hlt {x y : Value} (hx : x ∈ (h.cell a).values) (hy : y ∈ (h.cell b).values) :
            (h.reach x).length * (h.reach y).length < depth :=
          Nat.lt_of_lt_of_le (reach_mul_lt hv.grounded hw.grounded hx hy) (Nat.le_of_lt_succ hd)
        obtain ⟨vs, js, hca, rfl, hvs⟩ | ⟨es, ds, hca, rfl, hes⟩ := hv.of_ref
        · obtain ⟨ws, ks, hcb, rfl, hws⟩ | ⟨fs, gs, hcb, rfl, hfs⟩ := hw.of_ref
          · rw [hca, hcb] at hlt
            simp only [equalWithin, hca, hcb, Json.equal]
            split
            · rename_i hlength
              exact allM_zip hvs hws hlength fun x hx y hy p q hxp hyq =>
                same hxp hyq (hlt hx hy)
            · rename_i hlength
              have hne : Json.equalItems js ks ≠ true := fun heq =>
                hlength (by rw [hvs.length_eq, hws.length_eq, length_eq_of_equalItems heq])
              rw [Bool.eq_false_iff.2 hne]
          · simp [equalWithin, hca, hcb, Json.equal]
        · obtain ⟨ws, ks, hcb, rfl, hws⟩ | ⟨fs, gs, hcb, rfl, hfs⟩ := hw.of_ref
          · simp [equalWithin, hca, hcb, Json.equal]
          · rw [hca, hcb] at hlt
            simp only [equalWithin, hca, hcb, Json.equal, hes.length_eq, hfs.length_eq]
            split
            · rename_i hlength
              rw [hlength, beq_self_eq_true, Bool.true_and]
              exact allM_members hes hfs fun e he d hd p q hep hdq =>
                same hep hdq (hlt (List.mem_map_of_mem (f := Prod.snd) he)
                  (List.mem_map_of_mem (f := Prod.snd) hd))
            · rename_i hlength
              rw [beq_eq_false_iff_ne.2 hlength, Bool.false_and]

theorem equal_eq (hv : h.Shows v j) (hw : h.Shows w k) : h.equal v w = .ok (j.equal k) := by
  have hdepth : (h.reach v).length * (h.reach w).length < h.maxDepth v w := Nat.lt_succ_self _
  unfold equal
  rw [equalWithin_eq hv hw hdepth]

theorem sameItem_eq (hv : h.Shows v j) (hw : h.Shows w k) : h.sameItem v w = .ok (j.equal k) := by
  unfold sameItem
  split
  · rename_i hvw
    subst hvw
    rw [hv.unique hw, Json.equal_refl hw.exact]
  · exact equal_eq hv hw

def Answers (op : Comparison) : Option Ordering → Except Fault Bool → Prop
  | some o, r => r = .ok (op.holds o)
  | none, r => ∃ left right, r = .error (.unordered op left right)

theorem firstDifference_eq (hvs : List.Forall₂ h.Shows vs js) (hws : List.Forall₂ h.Shows ws ks) :
    (∃ v vs' w ws' j k, h.firstDifference vs ws = .ok (v :: vs', w :: ws') ∧ v ∈ vs ∧ w ∈ ws ∧
      h.Shows v j ∧ h.Shows w k ∧ Json.orderItems? js ks = j.order? k) ∨
    ∃ vs' ws', h.firstDifference vs ws = .ok (vs', ws') ∧ (vs' = [] ∨ ws' = []) ∧
      Json.orderItems? js ks = some (compare vs'.length ws'.length) := by
  induction hvs generalizing ws ks with
  | nil =>
    refine .inr ⟨[], ws, by cases ws <;> rfl, .inl rfl, ?_⟩
    cases hws with
    | nil => rfl
    | cons _ _ => rfl
  | @cons v j vs js hv hvs ih =>
    cases hws with
    | nil => exact .inr ⟨v :: vs, [], rfl, .inr rfl, rfl⟩
    | @cons w k ws ks hw hws =>
      rw [firstDifference, sameItem_eq hv hw, Json.orderItems?]
      cases hjk : j.equal k with
      | false =>
        exact .inl ⟨v, vs, w, ws, j, k, rfl, List.mem_cons_self, List.mem_cons_self, hv, hw, rfl⟩
      | true =>
        obtain ⟨v', vs', w', ws', j', k', hfirst, hv', hw', hrest⟩ | hrest := ih hws
        · exact .inl ⟨v', vs', w', ws', j', k', hfirst, List.mem_cons_of_mem v hv',
            List.mem_cons_of_mem w hw', hrest⟩
        · exact .inr hrest

theorem unordered_of_items (op : Comparison) (hv : h.Shows v j) (hw : h.Shows w k)
    (hne : ∀ s t, ¬ (v = .scalar s ∧ w = .scalar t))
    (hitems : h.items? v = none ∧ (∀ js, j ≠ .array js) ∨
      h.items? w = none ∧ ∀ ks, k ≠ .array ks) :
    Answers op (j.order? k) (h.orderedWithin op (depth + 1) v w) := by
  have horder : j.order? k = none := by
    refine Json.order?_eq_none ?_ ?_
    · rintro s t ⟨rfl, rfl⟩
      exact hne s t ⟨hv.eq_scalar, hw.eq_scalar⟩
    · rintro js ks ⟨hj, hk⟩
      exact hitems.elim (fun hleft => hleft.2 js hj) fun hright => hright.2 ks hk
  rw [horder, Objects.Mirrors.orderedWithin_succ op depth hne]
  refine ⟨h.kind v, h.kind w, ?_⟩
  obtain ⟨hnone, -⟩ | ⟨hnone, -⟩ := hitems
  · rw [hnone]
  · rw [hnone]
    cases h.items? v <;> rfl

theorem orderedWithin_eq (op : Comparison) (hv : h.Shows v j) (hw : h.Shows w k)
    (hd : (h.reach v).length * (h.reach w).length < depth) :
    Answers op (j.order? k) (h.orderedWithin op depth v w) := by
  induction depth generalizing v w j k with
  | zero => exact absurd hd (Nat.not_lt_zero _)
  | succ depth ih =>
    by_cases hscalars : ∃ s t, v = .scalar s ∧ w = .scalar t
    · obtain ⟨s, t, rfl, rfl⟩ := hscalars
      obtain ⟨rfl, hs⟩ := hv.of_scalar
      obtain ⟨rfl, ht⟩ := hw.of_scalar
      rw [Json.order?, orderedWithin, Scalar.ordered?_eq hs ht]
      cases s.order? t with
      | none => exact ⟨s.kind, t.kind, rfl⟩
      | some o => rfl
    · have hne (s t : Scalar) : ¬ (v = .scalar s ∧ w = .scalar t) := fun he =>
        hscalars ⟨s, t, he⟩
      obtain ⟨a, vs, js, hva, hca, hvs, hj, hshows⟩ | hnone := hv.items_cases
      · obtain ⟨b, ws, ks, hwb, hcb, hws, hk, hshows'⟩ | hnone := hw.items_cases
        · rw [Objects.Mirrors.orderedWithin_succ op depth hne, hvs, hws, hj, hk, Json.order?]
          dsimp only
          obtain ⟨x, xs, y, ys, p, q, hfirst, hx, hy, hxp, hyq, horder⟩ |
            ⟨xs, ys, hfirst, hnil, horder⟩ := firstDifference_eq hshows hshows'
          · rw [hfirst, horder]
            refine ih hxp hyq ?_
            have hxa : x ∈ (h.cell a).values := by rwa [hca]
            have hyb : y ∈ (h.cell b).values := by rwa [hcb]
            subst hva hwb
            exact Nat.lt_of_lt_of_le (reach_mul_lt hv.grounded hw.grounded hxa hyb)
              (Nat.le_of_lt_succ hd)
          · rw [hfirst, horder]
            obtain rfl | rfl := hnil
            · rfl
            · cases xs <;> rfl
        · exact unordered_of_items op hv hw hne (.inr hnone)
      · exact unordered_of_items op hv hw hne (.inl hnone)

/-- The values have a type that cannot be ordered, or two types that cannot. -/
def Unordered (r : Except Fault Bool) : Prop :=
  ∃ op left right, r = .error (.unordered op left right)

/-- On such values equality is an equivalence, and the comparisons by order fit to it. -/
structure Coherent (h : Objects) (P : Value → Prop) : Prop where
  answers : ∀ v w, P v → P w → ∃ b, h.compares .eq v w = .ok b ∧ h.compares .ne v w = .ok (!b)
  refl : ∀ v, P v → h.compares .eq v v = .ok true
  symm : ∀ v w, P v → P w → h.compares .eq v w = .ok true → h.compares .eq w v = .ok true
  trans : ∀ u v w, P u → P v → P w → h.compares .eq u v = .ok true →
    h.compares .eq v w = .ok true → h.compares .eq u w = .ok true
  truth : ∀ b n, h.compares .eq (.bool b) (.int n) = .ok (decide (n = if b then 1 else 0))
  /-- The order of their keys does not matter to two objects. -/
  objects : ∀ a b es fs, P (.ref a) → P (.ref b) → h.cell a = .object es → h.cell b = .object fs →
    (h.compares .eq (.ref a) (.ref b) = .ok true ↔
      ∀ key, Option.Rel (fun x y => h.compares .eq x y = .ok true) (Entries.get? key es)
        (Entries.get? key fs))
  /-- All four comparisons by order raise, or they answer to one ordering. -/
  order : ∀ v w, P v → P w →
    (∀ op ∈ [.lt, .le, .gt, .ge], Unordered (h.compares op v w)) ∨
    ∃ lt eq gt : Bool, [lt, eq, gt].count true = 1 ∧ h.compares .lt v w = .ok lt ∧
      h.compares .eq v w = .ok eq ∧ h.compares .gt v w = .ok gt ∧
      h.compares .le v w = .ok (lt || eq) ∧ h.compares .ge v w = .ok (gt || eq)
  mirror : ∀ v w, P v → P w →
    (h.compares .lt v w).toOption = (h.compares .gt w v).toOption ∧
      (h.compares .le v w).toOption = (h.compares .ge w v).toOption
  lt_trans : ∀ u v w, P u → P v → P w → h.compares .lt u v = .ok true →
    h.compares .lt v w = .ok true → h.compares .lt u w = .ok true

theorem Shows.of_object (hv : h.Shows (.ref a) j) (hc : h.cell a = .object es) :
    ∃ ds, j = .object ds ∧ List.Forall₂ (Member h) es ds := by
  obtain ⟨vs, js, hca, -, -⟩ | ⟨es', ds, hca, hj, hes⟩ := hv.of_ref
  · cases hc.symm.trans hca
  · cases hc.symm.trans hca
    exact ⟨ds, hj, hes⟩

theorem compares_eq_iff (hv : h.Shows v j) (hw : h.Shows w k) :
    h.compares .eq v w = .ok true ↔ j.equal k = true := by
  rw [compares, equal_eq hv hw, Except.ok.injEq]

theorem alike_iff {o o' : Option Value} {p p' : Option Json} (ho : Option.Rel h.Shows o p)
    (ho' : Option.Rel h.Shows o' p') :
    Option.Rel (fun x y => h.compares .eq x y = .ok true) o o' ↔ Json.Alike p p' := by
  cases ho with
  | none =>
    cases ho' with
    | none => exact ⟨fun _ => .none, fun _ => .none⟩
    | some _ => exact ⟨fun hrel => (nomatch hrel), fun hrel => (nomatch hrel)⟩
  | some hx =>
    cases ho' with
    | none => exact ⟨fun hrel => (nomatch hrel), fun hrel => (nomatch hrel)⟩
    | some hy =>
      rw [Option.rel_some_some, Json.Alike, Option.rel_some_some]
      exact compares_eq_iff hx hy

theorem compares_answers {op : Comparison} (hv : h.Shows v j) (hw : h.Shows w k)
    (hop : op ∈ [.lt, .le, .gt, .ge]) : Answers op (j.order? k) (h.compares op v w) := by
  have hdepth : (h.reach v).length * (h.reach w).length < h.maxDepth v w := Nat.lt_succ_self _
  cases op with
  | eq => simp at hop
  | ne => simp at hop
  | _ => exact orderedWithin_eq _ hv hw hdepth

theorem compares_lt_iff (hv : h.Shows v j) (hw : h.Shows w k) :
    h.compares .lt v w = .ok true ↔ j.order? k = some .lt := by
  have hlt := compares_answers hv hw (List.mem_cons_self : Comparison.lt ∈ [.lt, .le, .gt, .ge])
  cases ho : j.order? k with
  | none =>
    rw [ho] at hlt
    obtain ⟨left, right, hlt⟩ := hlt
    simp [hlt]
  | some o =>
    rw [ho] at hlt
    rw [show h.compares .lt v w = .ok (Comparison.lt.holds o) from hlt]
    cases o <;> simp [Comparison.holds]

theorem Answers.mirror {op op' : Comparison} {o : Option Ordering} {r r' : Except Fault Bool}
    (hr : Answers op o r) (hr' : Answers op' (o.map Ordering.swap) r')
    (hop : ∀ o : Ordering, op'.holds o.swap = op.holds o) : r.toOption = r'.toOption := by
  cases o with
  | none =>
    obtain ⟨_, _, rfl⟩ := hr
    obtain ⟨_, _, rfl⟩ := hr'
    rfl
  | some o =>
    rw [show r = .ok (op.holds o) from hr, show r' = .ok (op'.holds o.swap) from hr', hop]

theorem coherent (hh : h.Keyed) : h.Coherent h.Exact where
  answers v w hv hw := by
    obtain ⟨j, hj⟩ := hv.exists_shows hh
    obtain ⟨k, hk⟩ := hw.exists_shows hh
    refine ⟨j.equal k, equal_eq hj hk, ?_⟩
    rw [compares, equal_eq hj hk]
    rfl
  refl v hv := by
    obtain ⟨j, hj⟩ := hv.exists_shows hh
    exact (compares_eq_iff hj hj).2 (Json.equal_refl hj.exact)
  symm v w hv hw heq := by
    obtain ⟨j, hj⟩ := hv.exists_shows hh
    obtain ⟨k, hk⟩ := hw.exists_shows hh
    rw [compares_eq_iff hj hk] at heq
    exact (compares_eq_iff hk hj).2 (Json.equal_symm hj.exact hk.exact heq)
  trans u v w hu hv hw heq heq' := by
    obtain ⟨i, hi⟩ := hu.exists_shows hh
    obtain ⟨j, hj⟩ := hv.exists_shows hh
    obtain ⟨k, hk⟩ := hw.exists_shows hh
    rw [compares_eq_iff hi hj] at heq
    rw [compares_eq_iff hj hk] at heq'
    exact (compares_eq_iff hi hk).2 (Json.equal_trans hi.exact hj.exact hk.exact heq heq')
  truth b n := by
    have hb : (Scalar.bool b).Exact := trivial
    have hn : (Scalar.int n).Exact := trivial
    have hbool : h.Shows (.bool b) (.bool b) := ⟨grounded_scalar h _, .scalar hb, rfl⟩
    have hint : h.Shows (.int n) (.int n) := ⟨grounded_scalar h _, .scalar hn, rfl⟩
    rw [compares, equal_eq hbool hint, Except.ok.injEq, Bool.eq_iff_iff,
      Json.equal_scalar_iff hb hn, decide_eq_true_iff]
    exact ⟨fun heq => (Scalar.int.inj heq).symm, fun heq => congrArg Scalar.int heq.symm⟩
  objects a b es fs hv hw hca hcb := by
    obtain ⟨j, hj⟩ := hv.exists_shows hh
    obtain ⟨k, hk⟩ := hw.exists_shows hh
    rw [compares_eq_iff hj hk]
    obtain ⟨ds, rfl, hes⟩ := hj.of_object hca
    obtain ⟨gs, rfl, hfs⟩ := hk.of_object hcb
    cases hj.exact with
    | object hds _ =>
      cases hk.exact with
      | object hgs _ =>
        rw [Json.equal_object_iff hds hgs]
        exact forall_congr' fun key => (alike_iff (get?_shows hes key) (get?_shows hfs key)).symm
  order v w hv hw := by
    obtain ⟨j, hj⟩ := hv.exists_shows hh
    obtain ⟨k, hk⟩ := hw.exists_shows hh
    have answers {op : Comparison} := @compares_answers h v w j k op hj hk
    have heq : h.compares .eq v w = .ok (j.equal k) := equal_eq hj hk
    cases ho : j.order? k with
    | none =>
      rw [ho] at answers
      exact .inl fun op hop => ⟨op, answers hop⟩
    | some o =>
      rw [ho] at answers
      have hequal : j.equal k = (o == .eq) := by
        rw [Bool.eq_iff_iff, ← Json.order?_eq_iff hj.exact hk.exact ho, beq_iff_eq]
      rw [hequal] at heq
      refine .inr ⟨o == .lt, o == .eq, o == .gt, ?_, answers (by decide), heq, answers (by decide),
        (answers (by decide)).trans ?_, (answers (by decide)).trans ?_⟩ <;> cases o <;> rfl
  mirror v w hv hw := by
    obtain ⟨j, hj⟩ := hv.exists_shows hh
    obtain ⟨k, hk⟩ := hw.exists_shows hh
    have answers {op : Comparison} := @compares_answers h v w j k op hj hk
    have mirrored {op : Comparison} := @compares_answers h w v k j op hk hj
    rw [Json.order?_swap hj.exact hk.exact] at mirrored
    refine ⟨(answers (by decide)).mirror (mirrored (by decide)) fun o => ?_,
      (answers (by decide)).mirror (mirrored (by decide)) fun o => ?_⟩ <;> cases o <;> rfl
  lt_trans u v w hu hv hw hlt hlt' := by
    obtain ⟨i, hi⟩ := hu.exists_shows hh
    obtain ⟨j, hj⟩ := hv.exists_shows hh
    obtain ⟨k, hk⟩ := hw.exists_shows hh
    rw [compares_lt_iff hi hj] at hlt
    rw [compares_lt_iff hj hk] at hlt'
    exact (compares_lt_iff hi hk).2 (Json.order?_trans hi.exact hj.exact hk.exact hlt hlt')

end Objects

def Comparison.name : Comparison → Text
  | .eq => "eq"
  | .ne => "ne"
  | .lt => "lt"
  | .le => "le"
  | .gt => "gt"
  | .ge => "ge"

def Call.Compares (c : Call) (s : Store) (op : Comparison) (v w : Value) : Prop :=
  ∃ es, s.objects.entries? c.parameters = some es ∧ Entries.get? "a" es = some v ∧
    Entries.get? "b" es = some w ∧ (Entries.get? "op" es).getD (.text "eq") = .text op.name

namespace BuiltIn

variable {c : Call} {s : Store} {op : Comparison} {v w : Value}

theorem run_compare (hc : c.Compares s op v w) :
    (compare.behave c).run s = match s.objects.compares op v w with
      | .ok answer => (putOut c (.bool answer)).run s
      | .error f => (.error f.settled, s) := by
  obtain ⟨es, hes, hv, hw, hop⟩ := hc
  have hnamed : comparison s.objects (.text op.name) = .ok op := by cases op <;> rfl
  have hasked : ((s.objects.entries? c.parameters).bind (Entries.get? "op")).getD (.text "eq") =
      .text op.name := by
    rw [hes]
    exact hop
  unfold compare
  dsimp only
  rw [run_bind_ok (StoreM.run_objects s), hasked, hnamed,
    run_bind_ok (StoreM.run_ofExcept_ok op s), run_bind_ok (Call.run_required hes hv),
    run_bind_ok (Call.run_required hes hw)]
  cases s.objects.compares op v w with
  | error f => rw [run_bind_error (StoreM.run_ofExcept_error f s)]
  | ok answer => rw [run_bind_ok (StoreM.run_ofExcept_ok answer s)]

/-- The node that compares answers as the comparison of values does, which is a coherent order on
all finite values without floating-point numbers. -/
theorem compare_coherent (s : Store) (hs : s.objects.Keyed) :
    (∀ c op v w, c.Compares s op v w →
      (compare.behave c).run s = match s.objects.compares op v w with
        | .ok answer => (putOut c (.bool answer)).run s
        | .error f => (.error f.settled, s)) ∧
    s.objects.Coherent s.objects.Exact :=
  ⟨fun _ _ _ _ hc => run_compare hc, Objects.coherent hs⟩

/-- Two lists that differ behind their first items, and two objects that differ in the order of
their keys. -/
def pairs : Store where
  objects := ⟨#[.array [.int 1, .text "a"], .array [.bool true, .text "b"],
    .object [("x", .ref 0), ("y", .null)], .object [("y", .null), ("x", .ref 0)]], 1⟩
  root := .null
  log := #[]

theorem compare_coherent_pairs :
    (∀ a, a < 4 → pairs.objects.Exact (.ref a)) ∧
      pairs.objects.compares .lt (.ref 0) (.ref 1) = .ok true ∧
      pairs.objects.compares .gt (.ref 1) (.ref 0) = .ok true ∧
      pairs.objects.compares .eq (.ref 2) (.ref 3) = .ok true ∧
      Objects.Unordered (pairs.objects.compares .lt (.ref 2) (.ref 3)) := by
  have hhas : ∀ a < 4, ∀ b ∈ pairs.objects.reach (.ref a), b < 4 := by decide +kernel
  have hacyclic : ∀ a < 4, ∀ b ∈ pairs.objects.reach (.ref a),
      ∀ x ∈ (pairs.objects.cell b).values, b ∉ pairs.objects.reach x := by decide +kernel
  have hscalars : ∀ b < 4, ∀ x ∈ (pairs.objects.cell b).values, x ≠ .null →
      x = .int 1 ∨ x = .bool true ∨ x = .text "a" ∨ x = .text "b" ∨ x = .ref 0 := by
    decide +kernel
  have hexact (a : Addr) (ha : a < 4) : pairs.objects.Exact (.ref a) := by
    refine ⟨⟨hhas a ha, hacyclic a ha⟩, fun _ hs => (nomatch hs), fun b hb s hs => ?_⟩
    by_cases hnull : s = .null
    · subst hnull
      trivial
    · obtain h | h | h | h | h := hscalars b (hhas a ha b hb) _ hs fun h =>
        hnull (Value.scalar.inj h) <;> cases h <;> trivial
  obtain ⟨-, laws⟩ := compare_coherent pairs (by decide)
  have h0 := hexact 0 (by decide)
  have h1 := hexact 1 (by decide)
  have h2 := hexact 2 (by decide)
  have h3 := hexact 3 (by decide)
  have hlt : pairs.objects.compares .lt (.ref 0) (.ref 1) = .ok true :=
    ok_of_toOption (by decide +kernel)
  refine ⟨hexact, hlt, ok_of_toOption ?_, ok_of_toOption (by decide +kernel), ?_⟩
  · rw [← (laws.mirror _ _ h0 h1).1, hlt]
    rfl
  · obtain hnone | ⟨lt, _, _, -, hsome, -⟩ := laws.order _ _ h2 h3
    · exact hnone .lt (by decide)
    · have hnot : (pairs.objects.compares .lt (.ref 2) (.ref 3)).toOption = none := by
        decide +kernel
      rw [hsome] at hnot
      cases hnot

end BuiltIn
end NodeWalk
