import Mathlib.Data.List.Nodup
import Mathlib.Data.List.Pairwise
import NodeWalk.Proofs.WayToSite

set_option autoImplicit false

/-!
# Documents that are trees

In a tree every container stands in one place. What stands in different slots of a
container then has no container in common, and what does not lead to a container is
read the same after that container was written.
-/
namespace NodeWalk

theorem eq_of_nodup_flatMap {α β : Type} {f : α → List β} {l : List α} {a b : α} {x : β}
    (hn : (l.flatMap f).Nodup) (ha : a ∈ l) (hb : b ∈ l) (hax : x ∈ f a) (hbx : x ∈ f b) :
    a = b := by
  have : Std.Symm (Function.onFun List.Disjoint f) := ⟨fun _ _ => List.disjoint_symm⟩
  by_contra hne
  exact (List.nodup_flatMap.1 hn).2.forall ha hb hne hax hbx

def Cell.Entry : Cell → Slot → Value → Prop
  | .object entries, .key k, x => (k, x) ∈ entries
  | .array items, .item i, x => items[i]? = some x
  | _, _, _ => False

namespace Cell

variable {c : Cell} {s : Slot} {x : Value}

theorem entry_of_at? (h : c.at? s = some x) : c.Entry s x := by
  cases c with
  | object entries =>
    cases s with
    | item i => cases h
    | key k => exact Entries.mem_of_get? h
  | array items =>
    cases s with
    | key k => cases h
    | item i => exact h

theorem mem_values_of_entry (h : c.Entry s x) : x ∈ c.values := by
  cases c with
  | object entries =>
    cases s with
    | item i => cases h
    | key k => exact List.mem_map_of_mem h
  | array items =>
    cases s with
    | key k => cases h
    | item i => exact List.mem_of_getElem? h

theorem exists_entry (h : x ∈ c.values) : ∃ s, c.Entry s x := by
  cases c with
  | object entries =>
    obtain ⟨e, he, rfl⟩ := List.mem_map.1 h
    exact ⟨.key e.1, he⟩
  | array items =>
    obtain ⟨i, hi⟩ := List.mem_iff_getElem?.1 h
    exact ⟨.item i, hi⟩

theorem slot_unique {s' : Slot} {b : Addr} (hn : c.refs.Nodup) (hs : c.Entry s (.ref b))
    (hs' : c.Entry s' (.ref b)) : s = s' := by
  have hb : b ∈ (Value.ref b).refs := List.mem_singleton.2 rfl
  cases c with
  | object entries =>
    cases s with
    | item i => cases hs
    | key k =>
      cases s' with
      | item i => cases hs'
      | key k' =>
        rw [refs, values, List.flatMap_map] at hn
        have he : (k, Value.ref b) = (k', .ref b) := eq_of_nodup_flatMap hn hs hs' hb hb
        exact congrArg Slot.key (Prod.mk.inj he).1
  | array items =>
    cases s with
    | key k => cases hs
    | item i =>
      cases s' with
      | key k => cases hs'
      | item j =>
        obtain ⟨hi, hix⟩ := List.getElem?_eq_some_iff.1 hs
        obtain ⟨hj, hjx⟩ := List.getElem?_eq_some_iff.1 hs'
        have hapart := List.pairwise_iff_getElem.1 (List.nodup_flatMap.1 hn).2
        rcases Nat.lt_trichotomy i j with hlt | rfl | hlt
        · exact absurd (hjx ▸ hb) (hapart i j hi hj hlt (hix ▸ hb))
        · rfl
        · exact absurd (hix ▸ hb) (hapart j i hj hi hlt (hjx ▸ hb))

end Cell

namespace Objects

variable {h g : Objects} {v x y : Value} {a b c : Addr} {s s' : Slot} {ss ss' : List Slot}

/-- From the first value the slots lead to the last. -/
inductive Stands (h : Objects) : Value → List Slot → Value → Prop where
  | here (v : Value) : Stands h v [] v
  | inside {a : Addr} {s : Slot} {ss : List Slot} {x y : Value} (entry : (h.cell a).Entry s x)
      (rest : Stands h x ss y) : Stands h (.ref a) (s :: ss) y

theorem Stands.append (hx : h.Stands v ss x) (hy : h.Stands x ss' y) :
    h.Stands v (ss ++ ss') y := by
  induction hx with
  | here v => exact hy
  | inside entry _ ih => exact .inside entry (ih hy)

theorem exists_stands_of_mem_reach (ha : a ∈ h.reach v) : ∃ ss, h.Stands v ss (.ref a) := by
  have hclosed : h.Closed {a | ∃ ss, h.Stands v ss (.ref a)} := by
    rintro a ⟨ss, hss⟩ b hb
    obtain ⟨x, hx, hbx⟩ := List.mem_flatMap.1 hb
    obtain ⟨s, hs⟩ := Cell.exists_entry hx
    cases x with
    | scalar e => cases hbx
    | ref d =>
      rw [List.mem_singleton.1 hbx]
      exact ⟨ss ++ [s], hss.append (.inside hs (.here _))⟩
  refine reach_subset hclosed (fun b hb => ?_) a ha
  cases v with
  | scalar e => cases hb
  | ref d =>
    rw [List.mem_singleton.1 hb]
    exact ⟨[], .here _⟩

theorem Stands.mem_reach (hss : h.Stands v ss x) : ∀ a ∈ x.refs, a ∈ h.reach v := by
  induction hss with
  | here v => exact fun _ => mem_reach_of_mem_refs
  | inside entry _ ih =>
    exact fun b hb => reach_inside (mem_reach_ref h _) (Cell.mem_values_of_entry entry) b (ih b hb)

theorem Stands.last (hss : h.Stands v ss x) : (ss = [] ∧ v = x) ∨
    ∃ before s b, ss = before ++ [s] ∧ h.Stands v before (.ref b) ∧ (h.cell b).Entry s x := by
  induction hss with
  | here v => exact .inl ⟨rfl, rfl⟩
  | @inside a s ss y z entry rest ih =>
    obtain ⟨rfl, rfl⟩ | ⟨before, s', b, rfl, hbefore, hlast⟩ := ih
    · exact .inr ⟨[], s, a, rfl, .here _, entry⟩
    · exact .inr ⟨s :: before, s', b, rfl, .inside entry hbefore, hlast⟩

/-- No container below the value stands in two places. -/
def Tree (h : Objects) (v : Value) : Prop :=
  ∀ a ss ss', h.Stands v ss (.ref a) → h.Stands v ss' (.ref a) → ss = ss'

namespace Tree

theorem acyclic (hv : h.Tree v) : h.Acyclic v := by
  intro a ha x hx hax
  obtain ⟨ss, hss⟩ := exists_stands_of_mem_reach ha
  obtain ⟨s, hs⟩ := Cell.exists_entry hx
  obtain ⟨ss', hss'⟩ := exists_stands_of_mem_reach hax
  have heq := hv a ss (ss ++ s :: ss') hss (hss.append (.inside hs hss'))
  have hlength := congrArg List.length heq
  rw [List.length_append, List.length_cons] at hlength
  omega

theorem inside (hv : h.Tree (.ref a)) (hx : (h.cell a).Entry s x) : h.Tree x :=
  fun b ss ss' hss hss' =>
    (List.cons.inj (hv b (s :: ss) (s :: ss') (.inside hx hss) (.inside hx hss'))).2

theorem disjoint (hv : h.Tree (.ref a)) (hx : (h.cell a).Entry s x) (hy : (h.cell a).Entry s' y)
    (hne : s' ≠ s) (hc : c ∈ h.reach x) : c ∉ h.reach y := by
  intro hcy
  obtain ⟨ss, hss⟩ := exists_stands_of_mem_reach hc
  obtain ⟨ss', hss'⟩ := exists_stands_of_mem_reach hcy
  exact hne (List.cons.inj (hv c (s' :: ss') (s :: ss) (.inside hy hss') (.inside hx hss))).1

/-- A document is a tree where each container is referred to once. The induction is on the
first way to the container, from its end: both ways come from the one slot it stands in. -/
theorem of_nodup (hn : (v.refs ++ (h.reach v).flatMap h.refsOf).Nodup) : h.Tree v := by
  obtain ⟨-, hinside, happart⟩ := List.nodup_append.1 hn
  have hcells := (List.nodup_flatMap.1 hinside).1
  have hlower {before : List Slot} {b c : Addr} {s : Slot} (hbefore : h.Stands v before (.ref b))
      (hs : (h.cell b).Entry s (.ref c)) : b ∈ h.reach v ∧ c ∈ h.refsOf b :=
    ⟨hbefore.mem_reach b (List.mem_singleton.2 rfl),
      List.mem_flatMap.2 ⟨_, Cell.mem_values_of_entry hs, List.mem_singleton.2 rfl⟩⟩
  have hroot {before : List Slot} {b c : Addr} {s : Slot} (hv : v = .ref c)
      (hbefore : h.Stands v before (.ref b)) (hs : (h.cell b).Entry s (.ref c)) : False := by
    obtain ⟨hb, hc⟩ := hlower hbefore hs
    subst hv
    exact happart c (List.mem_singleton.2 rfl) c (List.mem_flatMap.2 ⟨b, hb, hc⟩) rfl
  intro c ss ss' hss hss'
  induction ss using List.reverseRecOn generalizing c ss' with
  | nil =>
    obtain ⟨-, hv⟩ | ⟨_, _, _, he, -, -⟩ := hss.last
    · obtain ⟨rfl, -⟩ | ⟨before, s, b, -, hbefore, hs⟩ := hss'.last
      · rfl
      · exact (hroot hv hbefore hs).elim
    · simp at he
  | append_singleton before s ih =>
    obtain ⟨he, -⟩ | ⟨before₁, s₁, b, he, hbefore, hs⟩ := hss.last
    · simp at he
    · obtain ⟨rfl, hsing⟩ := List.append_inj' he rfl
      obtain rfl := (List.cons.inj hsing).1
      obtain ⟨-, hv⟩ | ⟨before', s', b', rfl, hbefore', hs'⟩ := hss'.last
      · exact (hroot hv hbefore hs).elim
      · obtain ⟨hb, hc⟩ := hlower hbefore hs
        obtain ⟨hb', hc'⟩ := hlower hbefore' hs'
        obtain rfl := eq_of_nodup_flatMap hinside hb hb' hc hc'
        rw [ih b before' hbefore hbefore', Cell.slot_unique (hcells b hb) hs hs']

end Tree

theorem Has.unchanged_beside (hx : h.Has x) (hg : h.Beside g c) (hc : c ∉ h.reach x) :
    h.Unchanged g x := fun a ha => hg a (hx a ha) fun he => hc (he ▸ ha)

theorem Has.unfold_beside (hx : h.Has x) (hg : h.Beside g c) (hc : c ∉ h.reach x) :
    g.unfold x = h.unfold x :=
  (hx.unchanged_beside hg hc).unfold

end Objects

namespace Document

variable {h g : Objects} {path : Text} {x : Value} {c : Addr}

theorem walk_beside_of_not_mem (hg : h.Beside g c) (hx : h.Has x) (hc : c ∉ h.reach x)
    (tokens : List Text) : walk g path tokens x = walk h path tokens x := by
  induction tokens generalizing x with
  | nil => rfl
  | cons token tokens ih =>
    cases x with
    | scalar b => rfl
    | ref a =>
      have ha := Objects.mem_reach_ref h a
      have hne : c ≠ a := fun he => hc (he ▸ ha)
      rw [walk_ref, walk_ref, hg a (hx a ha) hne]
      cases (h.cell a).slot path token false with
      | error f => rfl
      | ok s =>
        dsimp only
        cases hy : (h.cell a).at? s with
        | none => rfl
        | some y =>
          have hmem := Cell.mem_values_of_at? hy
          exact ih (hx.inside ha hmem) fun hcy => hc (Objects.reach_inside ha hmem c hcy)

end Document
end NodeWalk
