import NodeWalk.Proofs.DocumentTree
import NodeWalk.Proofs.GroundedWrite
import NodeWalk.Proofs.KeyedObjects
import NodeWalk.Proofs.LoadedTree
import NodeWalk.Proofs.TreeWrite

set_option autoImplicit false

/-!
# Writes to documents that are trees

A value is written to a document that is a tree, into a container that it does not lead to. Then
what the document unfolds to is the write on trees: the one before the write with the unfolded
value at the place that the tokens lead to. Either write exists if the other does. If the value
is a tree and has no container in common with the document, the document is a tree again.
-/
namespace NodeWalk

namespace Entries

variable {α β : Type} {k : Text} {es : Entries α}

theorem get?_of_mem (hkeys : (keys es).Nodup) {v : α} (hv : (k, v) ∈ es) : get? k es = some v := by
  induction es with
  | nil => cases hv
  | cons e es ih =>
    obtain ⟨(hfirst : e.1 ∉ keys es), hrest⟩ := List.nodup_cons.1 hkeys
    rcases List.mem_cons.1 hv with rfl | hv
    · simp [get?]
    · have hmem : k ∈ keys es := List.mem_map_of_mem (f := Prod.fst) hv
      have hne : e.1 ≠ k := fun he => hfirst (he ▸ hmem)
      simp [get?, hne, ih hrest hv]

theorem get?_map (f : α → β) (k : Text) (es : Entries α) :
    get? k (es.map fun e => (e.1, f e.2)) = (get? k es).map f := by
  induction es with
  | nil => rfl
  | cons e es ih => by_cases h : e.1 = k <;> simp [get?, h, ih]

theorem map_set (f : α → β) (k : Text) (v : α) (es : Entries α) :
    ((set k v es).map fun e => (e.1, f e.2)) = set k (f v) (es.map fun e => (e.1, f e.2)) := by
  induction es with
  | nil => rfl
  | cons e es ih => by_cases h : e.1 = k <;> simp [set, h, ih]

theorem set_map_congr (hkeys : (keys es).Nodup) {f g : α → β}
    (h : ∀ e ∈ es, e.1 ≠ k → f e.2 = g e.2) (b : β) :
    set k b (es.map fun e => (e.1, f e.2)) = set k b (es.map fun e => (e.1, g e.2)) := by
  induction es with
  | nil => rfl
  | cons e es ih =>
    obtain ⟨(hfirst : e.1 ∉ keys es), hrest⟩ := List.nodup_cons.1 hkeys
    obtain ⟨he, hes⟩ := List.forall_mem_cons.1 h
    by_cases hk : e.1 = k
    · have hbehind : ∀ d ∈ es, f d.2 = g d.2 := by
        intro d hd
        have hmem : d.1 ∈ keys es := List.mem_map_of_mem (f := Prod.fst) hd
        exact hes d hd fun hdk => hfirst ((hdk.trans hk.symm) ▸ hmem)
      simp only [List.map_cons, set, hk, if_true]
      rw [List.map_congr_left fun d hd => by rw [hbehind d hd]]
    · simp only [List.map_cons, set, hk, if_false]
      rw [ih hrest hes, he hk]

end Entries

theorem Cell.at?_of_entry {c : Cell} {s : Slot} {x : Value} (hc : c.Keyed) (hx : c.Entry s x) :
    c.at? s = some x := by
  cases c with
  | object entries =>
    cases s with
    | item i => cases hx
    | key k => exact Entries.get?_of_mem hc hx
  | array items =>
    cases s with
    | key k => cases hx
    | item i => exact hx

namespace Objects

variable {h g : Objects} {u v w x y : Value} {a c : Addr} {s s' : Slot} {ss : List Slot}
  {path token : Text} {append : Bool}

theorem slot?_unfoldCell (h : Objects) (path token : Text) (append : Bool) (c : Cell) :
    (h.unfoldCell c).slot? token append = (c.slot path token append).toOption := by
  cases c with
  | object entries => rfl
  | array items =>
    ext s
    rw [unfoldCell, Unfolding.slot?_array_eq_some, List.length_map]
    constructor
    · rintro ⟨i, rfl, hi⟩
      rw [Cell.slot_array_ok_iff.2 ⟨i, rfl, Document.index_ok_iff.2 (Document.index_ok_iff.1 hi)⟩]
      rfl
    · intro hs
      obtain ⟨i, rfl, hi⟩ := Cell.slot_array_ok_iff.1 (ok_of_toOption hs)
      exact ⟨i, rfl, Document.index_ok_iff.2 (Document.index_ok_iff.1 hi)⟩

theorem at?_unfoldCell (h : Objects) (c : Cell) (s : Slot) :
    (h.unfoldCell c).at? s = (c.at? s).map h.unfold := by
  cases c with
  | object entries =>
    cases s with
    | item i => rfl
    | key k => exact Entries.get?_map h.unfold k entries
  | array items =>
    cases s with
    | key k => rfl
    | item i => exact List.getElem?_map

theorem unfoldCell_write (h : Objects) (c : Cell) (x : Value) (s : Slot) :
    h.unfoldCell (c.write x s) = (h.unfoldCell c).assign s (h.unfold x) := by
  cases c with
  | object entries =>
    cases s with
    | item i => rfl
    | key k => exact congrArg Unfolding.object (Entries.map_set h.unfold k x entries)
  | array items =>
    cases s with
    | key k => rfl
    | item i =>
      simp only [Cell.write, unfoldCell, Unfolding.assign, List.length_map]
      split
      · rw [List.map_append, List.map_singleton]
      · rw [List.map_set]

theorem assign_unfoldCell_congr {cell : Cell} (hc : cell.Keyed)
    (hs : cell.slot path token append = .ok s)
    (h' : ∀ s' y, s' ≠ s → cell.Entry s' y → g.unfold y = h.unfold y) (z : Unfolding) :
    (g.unfoldCell cell).assign s z = (h.unfoldCell cell).assign s z := by
  cases cell with
  | object entries =>
    cases hs
    exact congrArg Unfolding.object (Entries.set_map_congr hc
      (fun e he hk => h' (.key e.1) e.2 (fun hs => hk (Slot.key.inj hs)) he) z)
  | array items =>
    obtain ⟨i, rfl, -⟩ := Cell.slot_array_ok_iff.1 hs
    have hother {j : Nat} {y : Value} (hj : j ≠ i) (hy : items[j]? = some y) :
        g.unfold y = h.unfold y := h' (.item j) y (fun hs => hj (Slot.item.inj hs)) hy
    simp only [unfoldCell, Unfolding.assign, List.length_map]
    split
    · rename_i hlast
      rw [List.map_congr_left fun y hy => ?_]
      obtain ⟨j, hj⟩ := List.mem_iff_getElem?.1 hy
      obtain ⟨hlt, -⟩ := List.getElem?_eq_some_iff.1 hj
      exact hother (by omega) hj
    · refine congrArg Unfolding.array (List.ext_getElem? fun j => ?_)
      by_cases hj : i = j
      · subst hj
        simp [List.getElem?_set]
      · rw [List.getElem?_set_ne hj, List.getElem?_set_ne hj, List.getElem?_map, List.getElem?_map]
        cases hy : items[j]? with
        | none => rfl
        | some y => exact congrArg some (hother (Ne.symm hj) hy)

theorem Stands.of_beside (hg : h.Beside g c) (hss : g.Stands y ss x) (hy : h.Has y)
    (hc : c ∉ h.reach y) : h.Stands y ss x := by
  induction hss with
  | here v => exact .here v
  | @inside a s ss x z entry rest ih =>
    have ha := mem_reach_ref h a
    have hne : c ≠ a := fun he => hc (he ▸ ha)
    rw [hg a (hy a ha) hne] at entry
    have hmem := Cell.mem_values_of_entry entry
    exact .inside entry (ih (hy.inside ha hmem) fun hcx => hc (reach_inside ha hmem c hcx))

theorem Tree.beside (hv : h.Tree v) (hg : h.Beside g c) (hhas : h.Has v) (hc : c ∉ h.reach v) :
    g.Tree v :=
  fun a ss ss' hss hss' => hv a ss ss' (hss.of_beside hg hhas hc) (hss'.of_beside hg hhas hc)

/-- After a write at `c` the container `a` has the value in a slot, and what stands in the other
slots does not lead to `c`. -/
structure Rewritten (h g : Objects) (c a : Addr) (s : Slot) (x : Value) : Prop where
  has : h.Has (.ref a)
  keyed : (h.cell a).Keyed
  beside : h.Beside g c
  slot : ∃ path token append, (h.cell a).slot path token append = .ok s
  cell : g.cell a = (h.cell a).write x s
  acyclic : g.Acyclic (.ref a)
  others : ∀ s' y, s' ≠ s → (h.cell a).Entry s' y → c ∉ h.reach y

namespace Rewritten

theorem entry (hr : Rewritten h g c a s x) (hy : (g.cell a).Entry s' y) :
    (s' = s ∧ y = x) ∨ (s' ≠ s ∧ (h.cell a).Entry s' y) := by
  obtain ⟨path, token, append, hslot⟩ := hr.slot
  rw [hr.cell] at hy
  have hat := Cell.at?_of_entry (Cell.keyed_write hr.keyed x s) hy
  by_cases hs : s' = s
  · subst hs
    rw [Cell.at?_write_self hslot] at hat
    exact .inl ⟨rfl, (Option.some.inj hat).symm⟩
  · rw [Cell.at?_write_of_ne hs] at hat
    exact .inr ⟨hs, Cell.entry_of_at? hat⟩

theorem tree (hr : Rewritten h g c a s x) (htree : h.Tree (.ref a)) (hx : g.Tree x)
    (hapart : ∀ s' y, s' ≠ s → (h.cell a).Entry s' y → ∀ b ∈ h.reach y, b ∉ g.reach x) :
    g.Tree (.ref a) := by
  have ha := mem_reach_ref h a
  have hself {s₁ : Slot} {y : Value} {ss : List Slot} (hy : (g.cell a).Entry s₁ y)
      (hss : g.Stands y ss (.ref a)) : False :=
    hr.acyclic a (mem_reach_ref g a) y (Cell.mem_values_of_entry hy)
      (hss.mem_reach a (List.mem_singleton.2 rfl))
  have hold {s₁ : Slot} {y z : Value} {ss : List Slot} (hs : s₁ ≠ s)
      (hy : (h.cell a).Entry s₁ y) (hss : g.Stands y ss z) : h.Stands y ss z :=
    hss.of_beside hr.beside (hr.has.inside ha (Cell.mem_values_of_entry hy)) (hr.others s₁ y hs hy)
  have hmixed {s₁ : Slot} {y : Value} {ss ss' : List Slot} {b : Addr} (hs : s₁ ≠ s)
      (hy : (h.cell a).Entry s₁ y) (hss : g.Stands y ss (.ref b)) (hss' : g.Stands x ss' (.ref b)) :
      False :=
    hapart s₁ y hs hy b ((hold hs hy hss).mem_reach b (List.mem_singleton.2 rfl))
      (hss'.mem_reach b (List.mem_singleton.2 rfl))
  intro b ss ss' hss hss'
  cases hss with
  | here =>
    cases hss' with
    | here => rfl
    | inside entry rest => exact (hself entry rest).elim
  | @inside _ s₁ ss₁ y₁ _ entry rest =>
    cases hss' with
    | here => exact (hself entry rest).elim
    | @inside _ s₂ ss₂ y₂ _ entry' rest' =>
      obtain ⟨rfl, rfl⟩ | ⟨hs₁, hy₁⟩ := hr.entry entry
      · obtain ⟨rfl, rfl⟩ | ⟨hs₂, hy₂⟩ := hr.entry entry'
        · rw [hx b ss₁ ss₂ rest rest']
        · exact (hmixed hs₂ hy₂ rest' rest).elim
      · obtain ⟨rfl, rfl⟩ | ⟨hs₂, hy₂⟩ := hr.entry entry'
        · exact (hmixed hs₁ hy₁ rest rest').elim
        · exact htree b _ _ (.inside hy₁ (hold hs₁ hy₁ rest)) (.inside hy₂ (hold hs₂ hy₂ rest'))

theorem unfold (hr : Rewritten h g c a s x) (htree : h.Tree (.ref a)) :
    g.unfold (.ref a) = (h.unfold (.ref a)).assign s (g.unfold x) := by
  obtain ⟨path, token, append, hslot⟩ := hr.slot
  rw [unfold_ref hr.acyclic, hr.cell, unfoldCell_write, unfold_ref htree.acyclic]
  refine assign_unfoldCell_congr hr.keyed hslot (fun s' y hs hy => ?_) _
  exact (hr.has.inside (mem_reach_ref h a) (Cell.mem_values_of_entry hy)).unfold_beside hr.beside
    (hr.others s' y hs hy)

end Rewritten

/-- The value is a tree that has no container in common with the document. -/
structure Fresh (h : Objects) (u w : Value) : Prop where
  has : h.Has w
  tree : h.Tree w
  apart : ∀ a ∈ h.reach w, a ∉ h.reach u

namespace Fresh

theorem grounded (hw : h.Fresh u w) : h.Grounded w := ⟨hw.has, hw.tree.acyclic⟩

theorem inside (hw : h.Fresh u w) (ha : a ∈ h.reach u) (hx : x ∈ (h.cell a).values) :
    h.Fresh x w :=
  ⟨hw.has, hw.tree, fun b hb hbx => hw.apart b hb (reach_inside ha hx b hbx)⟩

end Fresh
end Objects

namespace Document

variable {h : Objects} {path last token : Text} {tokens : List Text} {u w x : Value} {a : Addr}
  {s : Slot} {append : Bool} {p : Site}

theorem Linked.acyclic_tail {g : Objects} {base : Nat} (hl : Linked g w base (token :: tokens))
    (hacyclic : g.Acyclic (.ref base)) : g.Acyclic (front w (base + 1) tokens) := by
  refine hacyclic.inside (Objects.mem_reach_ref g base) ?_
  rw [hl.head]
  exact List.mem_singleton.2 rfl

theorem tree_front {g : Objects} {base : Nat} (hl : Linked g w base tokens)
    (hacyclic : g.Acyclic (front w base tokens)) (hw : g.Tree w) :
    g.Tree (front w base tokens) := by
  induction tokens generalizing base with
  | nil => exact hw
  | cons token tokens ih =>
    have hbelow := ih hl.tail (hl.acyclic_tail hacyclic)
    have hentry {s : Slot} {y : Value} (hy : (g.cell base).Entry s y) :
        s = .key token ∧ y = front w (base + 1) tokens := by
      rw [hl.head] at hy
      cases s with
      | item i => cases hy
      | key k =>
        cases List.mem_singleton.1 hy
        exact ⟨rfl, rfl⟩
    have hself {s : Slot} {y : Value} {ss : List Slot} (hy : (g.cell base).Entry s y)
        (hss : g.Stands y ss (.ref base)) : False :=
      hacyclic base (Objects.mem_reach_ref g base) y (Cell.mem_values_of_entry hy)
        (hss.mem_reach base (List.mem_singleton.2 rfl))
    intro b ss ss' hss hss'
    cases hss with
    | here =>
      cases hss' with
      | here => rfl
      | inside entry rest => exact (hself entry rest).elim
    | inside entry rest =>
      cases hss' with
      | here => exact (hself entry rest).elim
      | inside entry' rest' =>
        obtain ⟨rfl, rfl⟩ := hentry entry
        obtain ⟨rfl, rfl⟩ := hentry entry'
        rw [hbelow b _ _ rest rest']

/-- The objects that a write makes unfold to what the tokens make of an empty object. -/
theorem place?_front {g : Objects} {base : Nat} (hl : Linked g w base tokens)
    (hacyclic : g.Acyclic (front w base tokens)) :
    (Unfolding.object []).place? (g.unfold w) tokens = some (g.unfold (front w base tokens)) := by
  induction tokens generalizing base with
  | nil => rfl
  | cons token tokens ih =>
    have hbelow := ih hl.tail (hl.acyclic_tail hacyclic)
    refine Unfolding.place?_cons_eq_some.2 ⟨.key token, _, rfl, hbelow, ?_⟩
    rw [front, Objects.unfold_ref hacyclic, hl.head]
    rfl

/-- Behind a write the value leads to what it led to before, or to objects that were made. -/
theorem reach_value (hno : p.cell ∉ h.reach w) (hw : h.Has w) :
    ∀ b ∈ (p.write w h).reach (p.value w h), b ∈ h.reach w ∨ h.cells.size ≤ b := by
  intro b hb
  obtain hb | ⟨hle, -⟩ := Objects.reach_subset
    (Site.closed_ahead hw hno (Nat.le_refl _)) (p.ahead_of_value w h) b hb
  · exact .inl hb
  · exact .inr hle

section Written

variable (hkeyed : h.Keyed) (hu : h.Has (.ref a)) (htree : h.Tree (.ref a)) (hw : h.Grounded w)
include hkeyed hu htree hw

theorem rewritten_here (hno : a ∉ h.reach w) (hs : (h.cell a).slot path token append = .ok s)
    (missing : List Text) :
    h.Rewritten (Site.write ⟨a, s, missing⟩ w h) a a s (front w h.cells.size missing) where
  has := hu
  keyed := hkeyed.cell a
  beside := Site.beside_write ⟨a, s, missing⟩ w h
  slot := ⟨path, token, append, hs⟩
  cell := Site.cell_write_self (hu a (Objects.mem_reach_ref h a))
  acyclic := (Site.grounded_write (p := ⟨a, s, missing⟩) hw hno ⟨hu, htree.acyclic⟩).acyclic
  others _ y _ hy := htree.acyclic a (Objects.mem_reach_ref h a) y (Cell.mem_values_of_entry hy)

theorem acyclic_made (hno : a ∉ h.reach w) (hs : (h.cell a).slot path token append = .ok s)
    (missing : List Text) :
    (Site.write ⟨a, s, missing⟩ w h).Acyclic (front w h.cells.size missing) := by
  have hr := rewritten_here hkeyed hu htree hw hno hs missing
  have hat : ((Site.write ⟨a, s, missing⟩ w h).cell a).at? s =
      some (front w h.cells.size missing) := by
    rw [hr.cell, Cell.at?_write_self hs]
  exact hr.acyclic.inside (Objects.mem_reach_ref _ a) (Cell.mem_values_of_at? hat)

theorem unfold_made (hno : a ∉ h.reach w) (hs : (h.cell a).slot path token append = .ok s)
    (missing : List Text) :
    ∃ y, (Unfolding.object []).place? (h.unfold w) missing = some y ∧
      (Site.write ⟨a, s, missing⟩ w h).unfold (.ref a) = (h.unfold (.ref a)).assign s y := by
  have hr := rewritten_here hkeyed hu htree hw hno hs missing
  refine ⟨_, ?_, hr.unfold htree⟩
  rw [← hw.has.unfold_beside hr.beside hno]
  exact place?_front (Site.linked ⟨a, s, missing⟩ w h)
    (acyclic_made hkeyed hu htree hw hno hs missing)

theorem rewritten_through (hno : p.cell ∉ h.reach w)
    (hs : (h.cell a).slot path token append = .ok s) (hx : (h.cell a).at? s = some x)
    (hp : p.cell ∈ h.reach x) : h.Rewritten (p.write w h) p.cell a s x where
  has := hu
  keyed := hkeyed.cell a
  beside := p.beside_write w h
  slot := ⟨path, token, append, hs⟩
  cell := by
    have ha := Objects.mem_reach_ref h a
    have hne : p.cell ≠ a := by
      intro he
      exact htree.acyclic a ha x (Cell.mem_values_of_at? hx) (he ▸ hp)
    rw [Site.cell_write_of_ne hne (hu a ha), Cell.write_eq_self hx]
  acyclic := (Site.grounded_write hw hno ⟨hu, htree.acyclic⟩).acyclic
  others _ _ hs' hy := htree.disjoint (Cell.entry_of_at? hx) hy hs' hp

end Written

/-- The written document unfolds to the write on trees, and the one succeeds with the other. The
induction is on the tokens that lead to the site: in each container on the way one slot holds
the part that was written, and the other slots hold what they held. -/
theorem place?_unfold (hkeyed : h.Keyed) (hu : h.Has u) (htree : h.Tree u) (hw : h.Grounded w)
    (hno : ∀ p, site h path last tokens u = .ok p → p.cell ∉ h.reach w) :
    (h.unfold u).place? (h.unfold w) (tokens ++ [last]) =
      (site h path last tokens u).toOption.map fun p => (p.write w h).unfold u := by
  induction tokens generalizing u with
  | nil =>
    cases u with
    | scalar b => rfl
    | ref a =>
      have hslot := Objects.slot?_unfoldCell h path last true (h.cell a)
      rw [← Objects.unfold_ref htree.acyclic] at hslot
      rw [List.nil_append, Unfolding.place?, List.isEmpty_nil, hslot]
      rw [site] at hno ⊢
      cases hs : (h.cell a).slot path last true with
      | error f => rfl
      | ok s =>
        rw [hs] at hno
        obtain ⟨y, hy, hunfold⟩ := unfold_made hkeyed hu htree hw (hno _ rfl) hs []
        cases hy
        exact congrArg some hunfold.symm
  | cons token tokens ih =>
    cases u with
    | scalar b => rfl
    | ref a =>
      have hslot := Objects.slot?_unfoldCell h path token false (h.cell a)
      have hat := Objects.at?_unfoldCell h (h.cell a)
      rw [← Objects.unfold_ref htree.acyclic] at hslot hat
      have hmore : (tokens ++ [last]).isEmpty = false := by simp
      rw [List.cons_append, Unfolding.place?, hmore, hslot]
      rw [site] at hno ⊢
      cases hs : (h.cell a).slot path token false with
      | error f => rfl
      | ok s =>
        rw [hs] at hno
        dsimp only [Except.toOption, Option.bind_eq_bind, Option.bind_some] at hno ⊢
        rw [Unfolding.inside, hat]
        cases hx : (h.cell a).at? s with
        | none =>
          rw [hx] at hno
          obtain ⟨y, hy, hunfold⟩ :=
            unfold_made hkeyed hu htree hw (hno _ rfl) hs (tokens ++ [last])
          dsimp only [Option.map_none, Option.getD_none]
          rw [hy]
          exact congrArg some hunfold.symm
        | some x =>
          rw [hx] at hno
          have ha := Objects.mem_reach_ref h a
          have hmem := Cell.mem_values_of_at? hx
          dsimp only [Option.map_some, Option.getD_some]
          rw [ih (hu.inside ha hmem) (htree.inside (Cell.entry_of_at? hx)) hno]
          cases hp : site h path last tokens x with
          | error f => rfl
          | ok p =>
            have hr := rewritten_through hkeyed hu htree hw (hno p hp) hs hx
              (leads_of_site hp).mem_reach
            exact congrArg some (hr.unfold htree).symm

section Fresh

variable (hkeyed : h.Keyed) (hu : h.Has (.ref a)) (htree : h.Tree (.ref a))
  (hw : h.Fresh (.ref a) w)
include hkeyed hu htree hw

theorem tree_made (hs : (h.cell a).slot path token append = .ok s) (missing : List Text) :
    (Site.write ⟨a, s, missing⟩ w h).Tree (.ref a) := by
  have ha := Objects.mem_reach_ref h a
  have hno : a ∉ h.reach w := fun haw => hw.apart a haw ha
  have hr := rewritten_here hkeyed hu htree hw.grounded hno hs missing
  refine hr.tree htree (tree_front (Site.linked ⟨a, s, missing⟩ w h)
    (acyclic_made hkeyed hu htree hw.grounded hno hs missing)
    (hw.tree.beside hr.beside hw.has hno)) fun s' y _ hy b hb hbx => ?_
  have hbu := Objects.reach_inside ha (Cell.mem_values_of_entry hy) b hb
  obtain hbw | hle := reach_value (p := ⟨a, s, missing⟩) hno hw.has b hbx
  · exact hw.apart b hbw hbu
  · exact absurd (hu b hbu) (Nat.not_lt_of_le hle)

theorem tree_through (hs : (h.cell a).slot path token append = .ok s)
    (hx : (h.cell a).at? s = some x) (hp : p.cell ∈ h.reach x) (hinside : (p.write w h).Tree x) :
    (p.write w h).Tree (.ref a) := by
  have ha := Objects.mem_reach_ref h a
  have hmem := Cell.mem_values_of_at? hx
  have hno : p.cell ∉ h.reach w := fun hc =>
    hw.apart p.cell hc (Objects.reach_inside ha hmem p.cell hp)
  have hr := rewritten_through hkeyed hu htree hw.grounded hno hs hx hp
  refine hr.tree htree hinside fun s' y hs' hy b hb hbx => ?_
  have hbu := Objects.reach_inside ha (Cell.mem_values_of_entry hy) b hb
  obtain hbx | ⟨-, hbw | ⟨hle, -⟩⟩ :=
    Site.through_of_reach hw.has hno (hu.inside ha hmem) b hbx
  · exact htree.disjoint (Cell.entry_of_at? hx) hy hs' hbx hb
  · exact hw.apart b hbw hbu
  · exact absurd (hu b hbu) (Nat.not_lt_of_le hle)

end Fresh

theorem tree_write (hp : site h path last tokens u = .ok p) (hkeyed : h.Keyed) (hu : h.Has u)
    (htree : h.Tree u) (hw : h.Fresh u w) : (p.write w h).Tree u := by
  induction tokens generalizing u with
  | nil =>
    obtain ⟨a, s, rfl, hs, rfl⟩ := site_nil_ok hp
    exact tree_made hkeyed hu htree hw hs []
  | cons token tokens ih =>
    obtain ⟨a, rfl, ⟨entries, hc, -, rfl⟩ | ⟨s, x, hs, hx, hrest⟩⟩ := site_cons_ok hp
    · have hs : (h.cell a).slot path token false = .ok (.key token) := by
        rw [hc]
        rfl
      exact tree_made hkeyed hu htree hw hs _
    · have ha := Objects.mem_reach_ref h a
      have hmem := Cell.mem_values_of_at? hx
      exact tree_through hkeyed hu htree hw hs hx (leads_of_site hrest).mem_reach
        (ih hrest (hu.inside ha hmem) (htree.inside (Cell.entry_of_at? hx)) (hw.inside ha hmem))

end Document
end NodeWalk
