import NodeWalk.Proofs.Grounded

set_option autoImplicit false

/-!
# Writes that close a loop

A write puts a value into a container that is there. If the value leads to that container
the document contains itself from then on. If it does not, then all values that were
grounded before the write still are.
-/
namespace NodeWalk

theorem Objects.mem_reach_beside {h g : Objects} {c : Addr} {x : Value} (hg : h.Beside g c)
    (hc : c ∈ h.reach x) : c ∈ g.reach x := by
  by_contra hno
  have hclosed : h.Closed {b | b ∈ g.reach x} := by
    intro b hb d hd
    rcases Nat.lt_or_ge b h.cells.size with hlt | hge
    · have hne : c ≠ b := by
        rintro rfl
        exact hno hb
      rw [refsOf, ← hg b hlt hne] at hd
      exact closed_reach g x b hb d hd
    · rw [refsOf_of_size_le hge] at hd
      cases hd
  exact hno (reach_subset hclosed (fun b hb => mem_reach_of_mem_refs hb) c hc)

theorem Objects.acyclic_of_kept {h g : Objects} {v : Value} (hk : h.Kept g) (hg : g.Acyclic v) :
    h.Acyclic v := by
  intro a ha x hx hself
  have hlt : a < h.cells.size := by
    refine Nat.lt_of_not_le fun hle => ?_
    rw [cell_of_size_le hle] at hx
    cases hx
  have hbeside : h.Beside g a := fun b hb _ => hk.cell b hb
  refine hg a (mem_reach_beside hbeside ha) x ?_ (mem_reach_beside hbeside hself)
  rwa [hk.cell a hlt]

namespace Document

variable {s t : Store} {h : Objects} {path v w x : Value} {a c : Addr} {p : Site}

theorem mem_values_chain {base i : Nat} {tokens : List Text} {cell : Cell}
    (hcell : (chain w base tokens)[i]? = some cell) (hx : x ∈ cell.values) :
    x = w ∨ (x = .ref (base + i + 1) ∧ i + 1 < tokens.length) := by
  induction tokens generalizing base i with
  | nil => cases hcell
  | cons token tokens ih =>
    cases i with
    | zero =>
      cases hcell
      obtain rfl := List.mem_singleton.1 hx
      cases tokens with
      | nil => exact .inl rfl
      | cons next tokens => exact .inr ⟨rfl, Nat.succ_lt_succ (Nat.zero_lt_succ _)⟩
    | succ i =>
      obtain hw | ⟨he, hlt⟩ := ih hcell
      · exact .inl hw
      · have hnext : base + 1 + i + 1 = base + (i + 1) + 1 := by omega
        exact .inr ⟨hnext ▸ he, Nat.succ_lt_succ hlt⟩

namespace Site

theorem size_write_eq (p : Site) (w : Value) (h : Objects) :
    (p.write w h).cells.size = h.cells.size + p.missing.length := by
  rw [write, Objects.size_append, Objects.size_put, length_chain]

theorem mem_values_made (ha : h.cells.size ≤ a) (hx : x ∈ ((p.write w h).cell a).values) :
    x = w ∨ (x = .ref (a + 1) ∧ a + 1 < (p.write w h).cells.size) := by
  obtain ⟨i, rfl⟩ := Nat.exists_eq_add_of_le ha
  by_cases hi : i < (chain w h.cells.size p.missing).length
  · rw [cell_write_add hi] at hx
    obtain hw | ⟨he, hlt⟩ := mem_values_chain (List.getElem?_eq_getElem hi) hx
    · exact .inl hw
    · refine .inr ⟨he, ?_⟩
      rw [size_write_eq, Nat.add_assoc]
      exact Nat.add_lt_add_left hlt _
  · rw [length_chain] at hi
    have hsize : (p.write w h).cells.size ≤ h.cells.size + i := by
      rw [size_write_eq]
      omega
    rw [Objects.cell_of_size_le hsize] at hx
    cases hx

theorem value_eq (p : Site) (w : Value) (h : Objects) : p.value w h = w ∨
    (p.value w h = .ref h.cells.size ∧ h.cells.size < (p.write w h).cells.size) := by
  rw [size_write_eq, value]
  cases p.missing with
  | nil => exact .inl rfl
  | cons token tokens => exact .inr ⟨rfl, Nat.lt_add_of_pos_right (Nat.zero_lt_succ _)⟩

theorem mem_values_written (hp : p.cell < h.cells.size)
    (hx : x ∈ ((p.write w h).cell p.cell).values) :
    x ∈ (h.cell p.cell).values ∨ x = p.value w h := by
  rw [cell_write_self hp] at hx
  exact Cell.forall_values_write (P := fun x => x ∈ (h.cell p.cell).values ∨ x = p.value w h)
    (fun _ hx => .inl hx) (.inr rfl) p.slot x hx

/-- What the value leads to, and the objects that were made from the `n`th cell on. -/
def Ahead (p : Site) (w : Value) (h : Objects) (n : Nat) (b : Addr) : Prop :=
  b ∈ h.reach w ∨ n ≤ b ∧ b < (p.write w h).cells.size

/-- What a value led to, and if that has the written container, what it leads to now. -/
def Through (p : Site) (w : Value) (h : Objects) (x : Value) (b : Addr) : Prop :=
  b ∈ h.reach x ∨ p.cell ∈ h.reach x ∧ p.Ahead w h h.cells.size b

theorem closed_ahead (hw : h.Has w) (hno : p.cell ∉ h.reach w) {n : Nat}
    (hn : h.cells.size ≤ n) : (p.write w h).Closed {b | p.Ahead w h n b} := by
  rintro b (hb | ⟨hnb, -⟩) d hd
  · have hne : p.cell ≠ b := by
      rintro rfl
      exact hno hb
    rw [Objects.refsOf, cell_write_of_ne hne (hw b hb)] at hd
    exact .inl (Objects.closed_reach h w b hb d hd)
  · obtain ⟨y, hy, hdy⟩ := List.mem_flatMap.1 hd
    obtain rfl | ⟨rfl, hlt⟩ := mem_values_made (Nat.le_trans hn hnb) hy
    · exact .inl (Objects.mem_reach_of_mem_refs hdy)
    · obtain rfl := List.mem_singleton.1 hdy
      exact .inr ⟨Nat.le_succ_of_le hnb, hlt⟩

theorem ahead_of_value (p : Site) (w : Value) (h : Objects) :
    ∀ b ∈ (p.value w h).refs, p.Ahead w h h.cells.size b := by
  obtain he | ⟨he, hlt⟩ := p.value_eq w h
  · rw [he]
    exact fun b hb => .inl (Objects.mem_reach_of_mem_refs hb)
  · rw [he]
    rintro b hb
    obtain rfl := List.mem_singleton.1 hb
    exact .inr ⟨Nat.le_refl _, hlt⟩

theorem closed_through (hw : h.Has w) (hno : p.cell ∉ h.reach w) (hx : h.Has x) :
    (p.write w h).Closed {b | p.Through w h x b} := by
  have hahead := closed_ahead hw hno (Nat.le_refl h.cells.size)
  rintro b (hb | ⟨hcell, hb⟩) d hd
  · by_cases hne : p.cell = b
    · subst hne
      obtain ⟨y, hy, hd⟩ := List.mem_flatMap.1 hd
      obtain hold | rfl := mem_values_written (hx p.cell hb) hy
      · exact .inl (Objects.reach_inside hb hold d (Objects.mem_reach_of_mem_refs hd))
      · exact .inr ⟨hb, p.ahead_of_value w h d hd⟩
    · rw [Objects.refsOf, cell_write_of_ne hne (hx b hb)] at hd
      exact .inl (Objects.closed_reach h x b hb d hd)
  · exact .inr ⟨hcell, hahead b hb d hd⟩

theorem through_of_reach (hw : h.Has w) (hno : p.cell ∉ h.reach w) (hx : h.Has x) :
    ∀ b ∈ (p.write w h).reach x, p.Through w h x b :=
  Objects.reach_subset (closed_through hw hno hx) fun _ hb =>
    .inl (Objects.mem_reach_of_mem_refs hb)

theorem not_mem_reach_old (hw : h.Grounded w) (hno : p.cell ∉ h.reach w) (hv : h.Grounded v)
    (ha : a ∈ h.reach v) (hx : x ∈ (h.cell a).values) : a ∉ (p.write w h).reach x := by
  intro hself
  obtain hself | ⟨hcell, hself | ⟨hle, -⟩⟩ :=
    through_of_reach hw.has hno (hv.has.inside ha hx) a hself
  · exact hv.acyclic a ha x hx hself
  · exact hno (Objects.reach_inside hself hx p.cell hcell)
  · exact absurd (hv.has a ha) (Nat.not_lt_of_le hle)

theorem grounded_write (hw : h.Grounded w) (hno : p.cell ∉ h.reach w) (hv : h.Grounded v) :
    (p.write w h).Grounded v := by
  have hreach := through_of_reach hw.has hno hv.has
  have hsize := p.size_write w h
  constructor
  · intro a ha
    obtain ha | ⟨-, ha | ⟨-, hlt⟩⟩ := hreach a ha
    · exact Nat.lt_of_lt_of_le (hv.has a ha) hsize
    · exact Nat.lt_of_lt_of_le (hw.has a ha) hsize
    · exact hlt
  · intro a ha x hx
    have hold {y : Value} (hy : h.Grounded y) (hay : a ∈ h.reach y) :
        a ∉ (p.write w h).reach x := by
      have hlt := hy.has a hay
      by_cases hne : p.cell = a
      · subst hne
        obtain hx | rfl := mem_values_written hlt hx
        · exact not_mem_reach_old hw hno hy hay hx
        · intro hself
          obtain hself | ⟨hle, -⟩ := Objects.reach_subset
            (closed_ahead hw.has hno (Nat.le_refl _)) (p.ahead_of_value w h) p.cell hself
          · exact hno hself
          · exact absurd hlt (Nat.not_lt_of_le hle)
      · rw [cell_write_of_ne hne hlt] at hx
        exact not_mem_reach_old hw hno hy hay hx
    obtain ha | ⟨-, ha | ⟨hle, -⟩⟩ := hreach a ha
    · exact hold hv ha
    · exact hold hw ha
    · -- An object that was made leads to those made after it, and to what the value does.
      have hrefs : ∀ b ∈ x.refs, p.Ahead w h (a + 1) b := by
        obtain rfl | ⟨rfl, hlt⟩ := mem_values_made hle hx
        · exact fun b hb => .inl (Objects.mem_reach_of_mem_refs hb)
        · rintro b hb
          obtain rfl := List.mem_singleton.1 hb
          exact .inr ⟨Nat.le_refl _, hlt⟩
      intro hself
      obtain hself | ⟨hlt, -⟩ := Objects.reach_subset
        (closed_ahead hw.has hno (Nat.le_succ_of_le hle)) hrefs a hself
      · exact absurd (hw.has a hself) (Nat.not_lt_of_le hle)
      · exact Nat.not_succ_le_self a hlt

end Site

theorem Leads.value_mem_written {path last : Text} {tokens : List Text}
    (hp : Leads h path last v tokens p) (x : Value) :
    x ∈ ((h.cell p.cell).write x p.slot).values := by
  cases hp with
  | all _ slot => exact Cell.mem_values_of_at? (Cell.at?_write_self slot)
  | @some way more c token entries _ cell _ =>
    have hget := Entries.get?_set_self token x entries
    dsimp only
    rw [cell]
    exact List.mem_map_of_mem (f := Prod.snd) (Entries.mem_of_get? hget)

/-- A value that leads to the container it is written to contains itself from then on. -/
theorem Site.not_acyclic_write {path last : Text} {tokens : List Text}
    (hp : Leads h path last v tokens p) (hlt : p.cell < h.cells.size)
    (hloop : p.cell ∈ h.reach w) : ¬ (p.write w h).Acyclic v := by
  intro hacyclic
  have hbeside := p.beside_write w h
  have hmem := hp.value_mem_written (p.value w h)
  rw [← cell_write_self hlt] at hmem
  have hvalue : ∀ b ∈ w.refs, b ∈ (p.write w h).reach (p.value w h) :=
    refs_of_walk (walk_chain (p.linked w h) path)
  exact hacyclic p.cell (Objects.mem_reach_beside hbeside hp.mem_reach) _ hmem
    (Objects.reach_mono hvalue p.cell (Objects.mem_reach_beside hbeside hloop))

def Loops (s : Store) (path w : Value) : Prop :=
  ∃ text tokens last p, path = .text text ∧ Pointer.tokens text = .ok (tokens ++ [last]) ∧
    site s.objects text last tokens s.root = .ok p ∧ p.cell ∈ s.objects.reach w

theorem grounded_of_set (hset : (set path w).run s = (.ok (), t))
    (hroot : s.objects.Grounded s.root) (hw : s.objects.Grounded w) (hno : ¬ Loops s path w) :
    t.objects.Grounded t.root ∧ ∀ v, s.objects.Grounded v → t.objects.Grounded v := by
  cases outcome_of_run_set hset with
  | replaced => exact ⟨hw, fun v hv => hv⟩
  | @stored text last _ tokens p pointer split place =>
    have hcell : p.cell ∉ s.objects.reach w := fun hc =>
      hno ⟨text, tokens, last, p, pointer, split, place, hc⟩
    exact ⟨Site.grounded_write hw hcell hroot, fun v hv => Site.grounded_write hw hcell hv⟩

theorem not_acyclic_of_set (hset : (set path w).run s = (.ok (), t))
    (hroot : s.objects.Has s.root) (hloops : Loops s path w) : ¬ t.objects.Acyclic t.root := by
  obtain ⟨text, tokens, last, p, rfl, hsplit, hplace, hcell⟩ := hloops
  have hleads := leads_of_site hplace
  obtain ⟨hwhole, -, -⟩ | ⟨tokens', last', p', hsplit', hplace', hobjects, hdoc⟩ :=
    exists_of_set_ok hset
  · simp [hsplit] at hwhole
  · obtain ⟨rfl, hlast⟩ := List.append_inj' (Except.ok.inj (hsplit.symm.trans hsplit')) rfl
    obtain rfl := (List.cons.inj hlast).1
    cases hplace.symm.trans hplace'
    rw [hobjects, hdoc]
    exact Site.not_acyclic_write hleads (hroot p.cell hleads.mem_reach) hcell

end Document
end NodeWalk
