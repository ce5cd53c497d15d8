import NodeWalk.Proofs.WriteElsewhere
import NodeWalk.Proofs.WrittenTree

set_option autoImplicit false

/-!
# Writes in either order

Two writes are made at places of which neither leads to the other, to a document that is a tree,
and each would succeed alone. Then the second succeeds behind the first, in either order, and
the two documents are equal but for the order of keys. The tokens of arrays have to be of the
seven-bit character set.
-/
namespace NodeWalk

def Slot.name : Slot → Text
  | .key k => k
  | .item i => toString i

namespace Cell

open Document

variable {c d : Cell} {s s' : Slot} {path path' last token : Text}

theorem spelled_eq_name (hs : c.slot path last true = .ok s)
    (hlast : ∀ items, c = .array items → Ascii last) : c.spelled last = s.name := by
  cases c with
  | object entries =>
    cases hs
    rfl
  | array items =>
    obtain ⟨i, rfl, hi⟩ := slot_array_ok_iff.1 hs
    rw [spelled, Slot.name]
    obtain ⟨-, rfl, rfl⟩ | ⟨hn, -⟩ := index_ok_iff.1 hi
    · exact if_pos rfl
    · have hdash : last ≠ "-" := by
        rintro rfl
        exact not_names_dash i hn
      rw [if_neg hdash, eq_toString_of_names hn (hlast items rfl)]

theorem eq_name_of_slot (hs : c.slot path token false = .ok s)
    (htoken : ∀ items, c = .array items → Ascii token) : token = s.name := by
  cases c with
  | object entries =>
    cases hs
    rfl
  | array items =>
    obtain ⟨i, rfl, hi⟩ := slot_array_ok_iff.1 hs
    obtain ⟨hfalse, -⟩ | ⟨hn, -⟩ := index_ok_iff.1 hi
    · cases hfalse
    · exact eq_toString_of_names hn (htoken items rfl)

/-- A token that is read in two containers of one kind selects the same slot of both. -/
theorem slot_eq_of_kind (hkind : c.kind = d.kind) (hs : c.slot path token false = .ok s)
    (hs' : d.slot path' token false = .ok s') : s = s' := by
  cases c with
  | object entries =>
    cases d with
    | array items => cases hkind
    | object others =>
      cases hs
      cases hs'
      rfl
  | array items =>
    cases d with
    | object entries => cases hkind
    | array others =>
      obtain ⟨i, rfl, hi⟩ := slot_array_ok_iff.1 hs
      obtain ⟨j, rfl, hj⟩ := slot_array_ok_iff.1 hs'
      obtain ⟨hfalse, -⟩ | ⟨hn, -⟩ := index_ok_iff.1 hi
      · cases hfalse
      · obtain ⟨hfalse, -⟩ | ⟨hm, -⟩ := index_ok_iff.1 hj
        · cases hfalse
        · rw [hn.unique hm]

end Cell

namespace Objects

variable {h g : Objects} {x : Value} {a b c : Addr} {s : Slot} {path token : Text} {append : Bool}

theorem slot?_unfold (hx : h.Acyclic (.ref a)) (hs : (h.cell a).slot path token append = .ok s) :
    (h.unfold (.ref a)).slot? token append = some s := by
  rw [unfold_ref hx, slot?_unfoldCell h path, hs]
  rfl

theorem slot?_unfold_concat (hx : h.Acyclic (.ref a))
    (hs : (h.cell a).slot path token false = .ok s) (tokens : List Text) (last : Text) :
    (h.unfold (.ref a)).slot? token (tokens ++ [last]).isEmpty = some s := by
  have hmore : (tokens ++ [last]).isEmpty = false := by simp
  rw [hmore]
  exact slot?_unfold hx hs

theorem slot_of_slot?_unfold (hx : h.Acyclic (.ref a))
    (hs : (h.unfold (.ref a)).slot? token append = some s) (path : Text) :
    (h.cell a).slot path token append = .ok s := by
  rw [unfold_ref hx, slot?_unfoldCell h path] at hs
  exact ok_of_toOption hs

theorem slot_of_slot?_unfold_concat (hx : h.Acyclic (.ref a)) {tokens : List Text}
    {last : Text} (hs : (h.unfold (.ref a)).slot? token (tokens ++ [last]).isEmpty = some s)
    (path : Text) : (h.cell a).slot path token false = .ok s := by
  have hmore : (tokens ++ [last]).isEmpty = false := by simp
  rw [hmore] at hs
  exact slot_of_slot?_unfold hx hs path

theorem inside_unfold (hx : h.Acyclic (.ref a)) (s : Slot) :
    (h.unfold (.ref a)).inside s = (((h.cell a).at? s).map h.unfold).getD (.object []) := by
  rw [unfold_ref hx, Unfolding.inside, at?_unfoldCell]

end Objects

namespace Document

open Unfolding (Parted Reordered)

variable {s t t' : Store} {h g : Objects} {path path' last last' token : Text}
  {tokens qs : List Text} {u v w x : Value} {a : Addr} {p q : Site}

/-- At a container a token that is not the last selects a slot, and the site is there if nothing
stands in it. -/
theorem slot_of_site_cons (hp : site h path last (token :: tokens) (.ref a) = .ok p) :
    ∃ s, (h.cell a).slot path token false = .ok s ∧
      ((h.cell a).at? s = none ∧ p = ⟨a, s, tokens ++ [last]⟩ ∨
        ∃ x, (h.cell a).at? s = some x ∧ site h path last tokens x = .ok p) := by
  obtain ⟨b, hb, ⟨entries, hc, hmissing, rfl⟩ | ⟨s, x, hs, hx, hrest⟩⟩ := site_cons_ok hp
  · cases hb
    rw [hc]
    exact ⟨.key token, rfl, .inl ⟨hmissing, rfl⟩⟩
  · cases hb
    exact ⟨s, hs, .inr ⟨x, hx, hrest⟩⟩

theorem first_of_site (hp : site h path last tokens (.ref a) = .ok p) (hu : h.Acyclic (.ref a))
    (hap : AsciiOnArrays h path (tokens ++ [last]) (.ref a)) :
    ∃ s token rest names, tokens ++ [last] = token :: rest ∧
      (h.unfold (.ref a)).slot? token rest.isEmpty = some s ∧
      tokens ++ [spelled h path last tokens (.ref a)] = s.name :: names ∧
      (tokens = [] → names = []) := by
  cases tokens with
  | nil =>
    obtain ⟨_, s, hb, hs, -⟩ := site_nil_ok hp
    cases hb
    have hname : spelled h path last [] (.ref a) = s.name :=
      Cell.spelled_eq_name hs fun _ hc => hap.head hc
    exact ⟨s, last, [], [], rfl, Objects.slot?_unfold hu hs, congrArg ([·]) hname, fun _ => rfl⟩
  | cons token tokens =>
    obtain ⟨s, hs, -⟩ := slot_of_site_cons hp
    have hname := Cell.eq_name_of_slot hs fun _ hc => hap.head hc
    exact ⟨s, token, tokens ++ [last], _, rfl, Objects.slot?_unfold_concat hu hs tokens last,
      congrArg (· :: _) hname, fun hnil => nomatch hnil⟩

theorem parted_or_same (hp : site h path last tokens (.ref a) = .ok p)
    (hq : site h path' last' qs (.ref a) = .ok q) (hu : h.Acyclic (.ref a))
    (hap : AsciiOnArrays h path (tokens ++ [last]) (.ref a))
    (haq : AsciiOnArrays h path' (qs ++ [last']) (.ref a)) :
    Parted (tokens ++ [last]) (qs ++ [last']) (h.unfold (.ref a)) ∨
      ∃ name names names', tokens ++ [spelled h path last tokens (.ref a)] = name :: names ∧
        qs ++ [spelled h path' last' qs (.ref a)] = name :: names' ∧
        (tokens = [] → names = []) ∧ (qs = [] → names' = []) := by
  obtain ⟨s, token, rest, names, htokens, hs, hnames, hnil⟩ := first_of_site hp hu hap
  obtain ⟨s', token', rest', names', hqs, hs', hnames', hnil'⟩ := first_of_site hq hu haq
  by_cases hsame : s = s'
  · subst hsame
    exact .inr ⟨s.name, names, names', hnames, hnames', hnil, hnil'⟩
  · rw [htokens, hqs]
    exact .inl (.here hs hs' hsame)

/-- The induction is on both pointers: as long as they select the same slots their tokens are
equal, since both are the name of the slot. -/
theorem parted_of_sites (hp : site h path last tokens u = .ok p)
    (hq : site h path' last' qs u = .ok q) (hu : h.Acyclic u)
    (hap : AsciiOnArrays h path (tokens ++ [last]) u)
    (haq : AsciiOnArrays h path' (qs ++ [last']) u)
    (hpq : ¬ tokens ++ [spelled h path last tokens u] <+: qs ++ [spelled h path' last' qs u])
    (hqp : ¬ qs ++ [spelled h path' last' qs u] <+: tokens ++ [spelled h path last tokens u]) :
    Parted (tokens ++ [last]) (qs ++ [last']) (h.unfold u) := by
  induction tokens generalizing u qs with
  | nil =>
    obtain ⟨a, _, rfl, -⟩ := site_nil_ok hp
    obtain hparted | ⟨name, _, names', hnames, hnames', hnil, -⟩ :=
      parted_or_same hp hq hu hap haq
    · exact hparted
    · rw [hnames, hnil rfl, hnames'] at hpq
      exact absurd (List.cons_prefix_cons.2 ⟨rfl, List.nil_prefix⟩) hpq
  | cons token tokens ih =>
    obtain ⟨a, rfl, -⟩ := site_cons_ok hp
    obtain hparted | ⟨name, names, names', hnames, hnames', -, hnil'⟩ :=
      parted_or_same hp hq hu hap haq
    · exact hparted
    cases qs with
    | nil =>
      rw [hnames', hnil' rfl, hnames] at hqp
      exact absurd (List.cons_prefix_cons.2 ⟨rfl, List.nil_prefix⟩) hqp
    | cons next qs =>
      obtain rfl : token = next := (List.cons.inj hnames).1.trans (List.cons.inj hnames').1.symm
      obtain ⟨s, hs, hsite⟩ := slot_of_site_cons hp
      obtain ⟨s', hs', hsite'⟩ := slot_of_site_cons hq
      obtain rfl := Cell.slot_eq_of_kind rfl hs hs'
      refine .inside (Objects.slot?_unfold hu hs) (Objects.slot?_unfold hu hs') ?_
      rw [Objects.inside_unfold hu]
      obtain ⟨hnone, rfl⟩ | ⟨x, hx, hrest⟩ := hsite
      · obtain ⟨entries, hc⟩ := exists_object_of_at?_none hs hnone
        have hmissing : Entries.get? token entries = none := by
          rw [hc] at hs hnone
          cases hs
          exact hnone
        rw [hnone]
        rw [spelled_missing hc hmissing, spelled_missing hc hmissing, List.cons_append,
          List.cons_append, List.cons_prefix_cons, and_iff_right rfl] at hpq hqp
        exact Unfolding.parted_of_not_prefix hpq hqp
      · obtain ⟨hnone, -⟩ | ⟨x', hx', hrest'⟩ := hsite'
        · cases hx.symm.trans hnone
        · cases hx.symm.trans hx'
          rw [spelled_step hs hx, spelled_step hs' hx, List.cons_append, List.cons_append,
            List.cons_prefix_cons, and_iff_right rfl] at hpq hqp
          rw [hx]
          exact ih hrest hrest' (hu.inside (Objects.mem_reach_ref h a)
            (Cell.mem_values_of_at? hx)) (hap.tail hs hx) (haq.tail hs' hx) hpq hqp

theorem le_of_site_front {base : Nat} (hl : Linked g v base tokens)
    (hparted : Parted tokens (qs ++ [last']) (.object []))
    (hq : site g path' last' qs (front v base tokens) = .ok q) : base ≤ q.cell := by
  induction tokens generalizing base qs with
  | nil => cases hparted
  | cons token tokens ih =>
    cases qs with
    | nil =>
      obtain ⟨a, s, ha, -, rfl⟩ := site_nil_ok hq
      cases ha
      exact Nat.le_refl _
    | cons next qs =>
      obtain ⟨s, hs, ⟨-, rfl⟩ | ⟨x, hx, hrest⟩⟩ := slot_of_site_cons hq
      · exact Nat.le_refl _
      · rw [hl.head] at hs hx
        cases hs
        cases hparted with
        | here first second differ =>
          cases first
          cases second
          have hne : token ≠ next := fun he => differ (congrArg Slot.key he)
          simp [Cell.at?, Entries.get?, hne] at hx
        | inside first second apart =>
          cases first
          cases second
          simp only [Cell.at?, Entries.get?, if_true, Option.some.injEq] at hx
          subst hx
          exact Nat.le_of_succ_le (ih hl.tail apart hrest)

/-- A token that selects another slot than the written one leads to what was there before. -/
theorem site_other {c : Addr} {s s' : Slot} (hr : h.Rewritten g c a s x)
    (hs' : (h.cell a).slot path token false = .ok s') (hne : s' ≠ s)
    (hq : site g path last (token :: tokens) (.ref a) = .ok q) : q.cell ∈ h.reach (.ref a) := by
  have ha := Objects.mem_reach_ref h a
  obtain ⟨s₁, hs₁, ⟨-, rfl⟩ | ⟨y, hy, hrest⟩⟩ := slot_of_site_cons hq
  · exact ha
  · rw [hr.cell] at hs₁ hy
    obtain rfl := Cell.slot_eq_of_kind (Cell.kind_write x (h.cell a) s).symm hs' hs₁
    rw [Cell.at?_write_of_ne hne] at hy
    have hmem := Cell.mem_values_of_at? hy
    have hsame := (hr.has.inside ha hmem).unchanged_beside hr.beside
      (hr.others s' y hne (Cell.entry_of_at? hy))
    exact Objects.reach_inside ha hmem q.cell (hsame.mem_reach (leads_of_site hrest).mem_reach)

theorem site_same {c : Addr} {s : Slot} (hr : h.Rewritten g c a s x)
    (hs : (h.cell a).slot path token false = .ok s)
    (hq : site g path last (token :: tokens) (.ref a) = .ok q) :
    site g path last tokens x = .ok q := by
  obtain ⟨s', hs', hsite⟩ := slot_of_site_cons hq
  rw [hr.cell] at hs' hsite
  obtain rfl := Cell.slot_eq_of_kind (Cell.kind_write x (h.cell a) s).symm hs hs'
  rw [Cell.at?_write_self hs] at hsite
  obtain ⟨hnone, -⟩ | ⟨y, hy, hrest⟩ := hsite
  · cases hnone
  · cases hy
    exact hrest

/-- Behind a write from which it is parted, another has its site in a container that the
document had before, or in one that the first write made. -/
theorem site_behind (hp : site h path last tokens u = .ok p) (hkeyed : h.Keyed) (hu : h.Has u)
    (htree : h.Tree u) (hv : h.Grounded v) (hno : p.cell ∉ h.reach v)
    (hparted : Parted (tokens ++ [last]) (qs ++ [last']) (h.unfold u))
    (hq : site (p.write v h) path' last' qs u = .ok q) :
    q.cell ∈ h.reach u ∨ h.cells.size ≤ q.cell := by
  induction tokens generalizing u qs with
  | nil =>
    obtain ⟨a, s, rfl, hs, rfl⟩ := site_nil_ok hp
    cases qs with
    | nil =>
      obtain ⟨_, _, hb, -, rfl⟩ := site_nil_ok hq
      cases hb
      exact .inl (Objects.mem_reach_ref h a)
    | cons next qs =>
      cases hparted with
      | inside _ _ apart => cases apart
      | here first second differ =>
        cases (Objects.slot?_unfold htree.acyclic hs).symm.trans first
        exact .inl (site_other (rewritten_here hkeyed hu htree hv hno hs [])
          (Objects.slot_of_slot?_unfold_concat htree.acyclic second path') differ.symm hq)
  | cons token tokens ih =>
    obtain ⟨a, rfl, -⟩ := site_cons_ok hp
    have ha := Objects.mem_reach_ref h a
    obtain ⟨s, hs, hsite⟩ := slot_of_site_cons hp
    -- Whether the object is missing or the way goes on, one slot of this container is written.
    obtain ⟨c, x, hr, hsame⟩ : ∃ c x, h.Rewritten (p.write v h) c a s x ∧
        ∀ qs, Parted (tokens ++ [last]) (qs ++ [last']) ((h.unfold (.ref a)).inside s) →
          site (p.write v h) path' last' qs x = .ok q →
            q.cell ∈ h.reach (.ref a) ∨ h.cells.size ≤ q.cell := by
      obtain ⟨hnone, rfl⟩ | ⟨x, hx, hrest⟩ := hsite
      · refine ⟨a, _, rewritten_here hkeyed hu htree hv hno hs _, fun qs hparted hq => ?_⟩
        rw [Objects.inside_unfold htree.acyclic, hnone] at hparted
        exact .inr (le_of_site_front (Site.linked _ v h) hparted hq)
      · have hmem := Cell.mem_values_of_at? hx
        refine ⟨p.cell, x, rewritten_through hkeyed hu htree hv hno hs hx
          (leads_of_site hrest).mem_reach, fun qs hparted hq => ?_⟩
        rw [Objects.inside_unfold htree.acyclic, hx] at hparted
        exact (ih hrest (hu.inside ha hmem) (htree.inside (Cell.entry_of_at? hx)) hparted
          hq).imp_left (Objects.reach_inside ha hmem q.cell)
    cases qs with
    | nil =>
      obtain ⟨_, _, hb, -, rfl⟩ := site_nil_ok hq
      cases hb
      exact .inl ha
    | cons next qs =>
      cases hparted with
      | here first second differ =>
        cases (Objects.slot?_unfold_concat htree.acyclic hs tokens last).symm.trans first
        exact .inl (site_other hr
          (Objects.slot_of_slot?_unfold_concat htree.acyclic second path') differ.symm hq)
      | inside first second apart =>
        cases (Objects.slot?_unfold htree.acyclic hs).symm.trans first
        exact hsame qs apart
          (site_same hr (Objects.slot_of_slot?_unfold htree.acyclic second path') hq)

/-- The document is a tree, and no object has a key twice. -/
structure HoldsTree (s : Store) : Prop where
  keyed : s.objects.Keyed
  has : s.objects.Has s.root
  tree : s.objects.Tree s.root

/-- Neither of two writes goes to the place of the other, or to one below it. -/
def Incomparable (s : Store) (p q : Text) : Prop :=
  ∀ ps qs, Pointer.tokens p = .ok ps → Pointer.tokens q = .ok qs →
    ¬ placed s.objects p ps s.root <+: placed s.objects q qs s.root ∧
      ¬ placed s.objects q qs s.root <+: placed s.objects p ps s.root

/-- A write behind another succeeds if the value has a text and the write on trees succeeds, and
the document unfolds to what that gives. -/
theorem exists_set_behind {p q : Text} {ps qs : List Text} {site₁ : Site} {shown : String}
    {c : Unfolding} (hs : HoldsTree s) (hv : s.objects.Fresh s.root v)
    (hw : s.objects.Fresh s.root w) (hq : Pointer.tokens q = .ok (qs ++ [last']))
    (hsite : site s.objects p last ps s.root = .ok site₁)
    (hobjects : t.objects = site₁.write v s.objects) (hroot : t.root = s.root)
    (hparted : Parted (ps ++ [last]) (qs ++ [last']) (s.objects.unfold s.root))
    (hshown : s.objects.shown? w = some shown)
    (hc : (t.objects.unfold t.root).place? (s.objects.unfold w) (qs ++ [last']) = some c) :
    ∃ u, (set (.text q) w).run t = (.ok (), u) ∧ u.objects.unfold u.root = c := by
  have hcell := (leads_of_site hsite).mem_reach
  have hnov : site₁.cell ∉ s.objects.reach v := fun hm => hv.apart _ hm hcell
  have hnow : site₁.cell ∉ s.objects.reach w := fun hm => hw.apart _ hm hcell
  have hbeside := site₁.beside_write v s.objects
  have hgrounded : (site₁.write v s.objects).Grounded w :=
    Site.grounded_write hv.grounded hnov hw.grounded
  have hdoc : (site₁.write v s.objects).Has s.root :=
    (Site.grounded_write hv.grounded hnov ⟨hs.has, hs.tree.acyclic⟩).has
  have hkeyed := Site.keyed_write hs.keyed site₁ v
  have htree := tree_write hsite hs.keyed hs.has hs.tree hv
  have hunfold := hw.has.unfold_beside hbeside hnow
  have hno : ∀ r, site (site₁.write v s.objects) q last' qs s.root = .ok r →
      r.cell ∉ (site₁.write v s.objects).reach w := by
    intro r hr hm
    have hold := (hw.has.unchanged_beside hbeside hnow).mem_reach hm
    obtain hdoc | hle := site_behind hsite hs.keyed hs.has hs.tree hv.grounded hnov hparted hr
    · exact hw.apart r.cell hold hdoc
    · exact absurd (hw.has r.cell hold) (Nat.not_lt_of_le hle)
  rw [hobjects, hroot, ← hunfold, place?_unfold hkeyed hdoc htree hgrounded hno] at hc
  obtain ⟨r, hr, rfl⟩ := Option.map_eq_some_iff.1 hc
  have hr := ok_of_toOption hr
  have hrun := run_set_place hq w t
  have hreport : (r.write w (site₁.write v s.objects)).shown? w = some shown := by
    rw [Objects.shown?, hgrounded.has.unfold_beside (r.beside_write w _) (hno r hr), hunfold]
    exact hshown
  rw [hobjects, hroot, hr] at hrun
  dsimp only at hrun
  rw [hreport] at hrun
  refine ⟨_, hrun, ?_⟩
  dsimp only [Store.withObjects]
  rw [hroot]

theorem exists_tokens_of_set {path : Text} (hset : (set (.text path) w).run s = (.ok (), t)) :
    ∃ ts, Pointer.tokens path = .ok ts := by
  obtain ⟨hts, -, -⟩ | ⟨tokens, last, _, hts, -⟩ := exists_of_set_ok hset
  · exact ⟨[], hts⟩
  · exact ⟨tokens ++ [last], hts⟩

/-- A write of a fresh value that is done: it goes to a site, the value has a text, and the
document unfolds to the write on trees. -/
structure Placed (s : Store) (path last : Text) (tokens : List Text) (w : Value) (t : Store)
    (p : Site) (shown : String) : Prop where
  split : Pointer.tokens path = .ok (tokens ++ [last])
  site : site s.objects path last tokens s.root = .ok p
  objects : t.objects = p.write w s.objects
  root : t.root = s.root
  text : s.objects.shown? w = some shown
  unfold : (s.objects.unfold s.root).place? (s.objects.unfold w) (tokens ++ [last]) =
    some (t.objects.unfold t.root)

theorem exists_placed {path : Text} {ts : List Text} (hs : HoldsTree s)
    (hw : s.objects.Fresh s.root w) (hset : (set (.text path) w).run s = (.ok (), t))
    (hts : Pointer.tokens path = .ok ts) (hne : ts ≠ []) :
    ∃ tokens last p shown, Placed s path last tokens w t p shown := by
  cases outcome_of_run_set hset with
  | replaced pointer whole =>
    cases pointer
    exact absurd (Except.ok.inj (hts.symm.trans whole)) hne
  | @stored text last shown tokens p pointer split place report =>
    cases pointer
    have hno : p.cell ∉ s.objects.reach w := fun hm =>
      hw.apart p.cell hm (leads_of_site place).mem_reach
    refine ⟨tokens, last, p, shown, split, place, rfl, rfl, ?_, ?_⟩
    · rw [Objects.shown?, hw.has.unfold_beside (p.beside_write w _) hno] at report
      exact report
    · rw [place?_unfold hs.keyed hs.has hs.tree hw.grounded, place]
      · rfl
      · intro p' hp'
        cases place.symm.trans hp'
        exact hno

/-- Two writes at places of which neither leads to the other succeed in either order if each does
alone, and the documents are equal but for the order of keys. -/
theorem set_set_comm {p q : Text} (hs : HoldsTree s) (hv : s.objects.Fresh s.root v)
    (hw : s.objects.Fresh s.root w) (hp : AsciiPointer s p) (hq : AsciiPointer s q)
    (hapart : Incomparable s p q) (hset : (set (.text p) v).run s = (.ok (), t))
    (hset' : (set (.text q) w).run s = (.ok (), t')) :
    ∃ u u', (set (.text q) w).run t = (.ok (), u) ∧ (set (.text p) v).run t' = (.ok (), u') ∧
      Reordered (u.objects.unfold u.root) (u'.objects.unfold u'.root) := by
  obtain ⟨ps, hps⟩ := exists_tokens_of_set hset
  obtain ⟨qs, hqs⟩ := exists_tokens_of_set hset'
  obtain ⟨hpq, hqp⟩ := hapart ps qs hps hqs
  have hpsne : ps ≠ [] := by
    rintro rfl
    exact hpq List.nil_prefix
  have hqsne : qs ≠ [] := by
    rintro rfl
    exact hqp List.nil_prefix
  obtain ⟨ps, last, site₁, shown, hfirst⟩ := exists_placed hs hv hset hps hpsne
  obtain ⟨qs, last', site₂, shown', hsecond⟩ := exists_placed hs hw hset' hqs hqsne
  cases hps.symm.trans hfirst.split
  cases hqs.symm.trans hsecond.split
  rw [placed_concat, placed_concat] at hpq hqp
  have hap := hp _ hps
  have haq := hq _ hqs
  have hparted := parted_of_sites hfirst.site hsecond.site hs.tree.acyclic hap haq hpq hqp
  have hparted' := parted_of_sites hsecond.site hfirst.site hs.tree.acyclic haq hap hqp hpq
  obtain ⟨c, d, hc, hd, hcd⟩ := Unfolding.place?_comm hparted hfirst.unfold hsecond.unfold
  obtain ⟨u, hu, hcu⟩ := exists_set_behind hs hv hw hqs hfirst.site hfirst.objects hfirst.root
    hparted hsecond.text hc
  obtain ⟨u', hu', hdu⟩ := exists_set_behind hs hw hv hps hsecond.site hsecond.objects
    hsecond.root hparted' hfirst.text hd
  exact ⟨u, u', hu, hu', hcu ▸ hdu ▸ hcd⟩

/-- Both writes go through an object that is missing, and the first to come makes it. -/
theorem set_set_comm_missing :
    let s : Store := ⟨⟨#[.array [.text "x"], .object [("a", .ref 0)], .array []], 1⟩, .ref 1, #[]⟩
    ∃ t t' u u', (set (.text "/m/k") (.ref 2)).run s = (.ok (), t) ∧
      (set (.text "/m/n") (.int 1)).run s = (.ok (), t') ∧
      (set (.text "/m/n") (.int 1)).run t = (.ok (), u) ∧
      (set (.text "/m/k") (.ref 2)).run t' = (.ok (), u') ∧
      Reordered (u.objects.unfold u.root) (u'.objects.unfold u'.root) := by
  intro s
  have hset : (set (.text "/m/k") (.ref 2)).run s = (.ok (), _) :=
    run_eq_of_result (ok_of_toOption (by decide +kernel))
  have hset' : (set (.text "/m/n") (.int 1)).run s = (.ok (), _) :=
    run_eq_of_result (ok_of_toOption (by decide +kernel))
  have hs : HoldsTree s :=
    ⟨by decide +kernel, by decide +kernel, .of_nodup (by decide +kernel)⟩
  have hv : s.objects.Fresh s.root (.ref 2) :=
    ⟨by decide +kernel, .of_nodup (by decide +kernel), by decide +kernel⟩
  have hw : s.objects.Fresh s.root (.int 1) :=
    ⟨by decide +kernel, .of_nodup (by decide +kernel), by decide +kernel⟩
  have hp : Pointer.tokens "/m/k" = .ok ["m", "k"] := by cbv
  have hq : Pointer.tokens "/m/n" = .ok ["m", "n"] := by cbv
  have hpAscii : AsciiPointer s "/m/k" := by
    intro ts hts
    cases hp.symm.trans hts
    exact asciiOnArrays_of_forall (by decide +kernel) _
  have hqAscii : AsciiPointer s "/m/n" := by
    intro ts hts
    cases hq.symm.trans hts
    exact asciiOnArrays_of_forall (by decide +kernel) _
  have hplaced : placed s.objects "/m/k" ["m", "k"] s.root = ["m", "k"] := by cbv
  have hplaced' : placed s.objects "/m/n" ["m", "n"] s.root = ["m", "n"] := by cbv
  have hapart : Incomparable s "/m/k" "/m/n" := by
    intro ps qs hps hqs
    cases hp.symm.trans hps
    cases hq.symm.trans hqs
    rw [hplaced, hplaced']
    decide
  obtain ⟨u, u', hu, hu', hr⟩ := set_set_comm hs hv hw hpAscii hqAscii hapart hset hset'
  exact ⟨_, _, u, u', hset, hset', hu, hu', hr⟩

end Document
end NodeWalk
