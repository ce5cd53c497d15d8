import NodeWalk.Proofs.LiveScope
import NodeWalk.Proofs.OpenedDocument

set_option autoImplicit false

/-!
# Runs of the same graph

Two runs of one graph, or of a graph and an image of it, each on a document that was opened from
the same, follow each other turn by turn. The literals are copied afresh in every turn, so it
takes that the graph stays as it was on both sides: nothing live leads to it.
-/
namespace NodeWalk

structure Objects.SameOn (p : Scope) (h g : Objects) : Prop where
  holds : g.Holds p
  cell : ∀ a ∈ p.cells, g.cell a = h.cell a

namespace Objects.SameOn

variable {h g g' : Objects} {s s' p : Scope} {t u : Store}

theorem kept (hg : SameOn p h g) (hk : g.Kept g') : SameOn p h g' where
  holds := hg.holds.kept hk
  cell a ha := by rw [hk.cell a (hg.holds.size a ha), hg.cell a ha]

theorem widened (hg : SameOn p h t.objects) (hw : Widens s t s' u)
    (hd : ∀ a ∈ p.cells, a ∉ s.cells) : SameOn p h u.objects where
  holds := hg.holds.apart hw hd
  cell a ha := by
    rw [hw.frame a (hg.holds.size a ha) (hd a ha), hg.cell a ha]

end Objects.SameOn

/-- What the scope `p` has in `h` is found again, renamed, in what `p'` has in `h'`. -/
structure Objects.Twinned (σ : Renaming) (p p' : Scope) (h h' : Objects) : Prop where
  maps : ∀ a ∈ p.cells, σ.cell a ∈ p'.cells
  mapsMark : ∀ m ∈ p.marks, σ.mark m ∈ p'.marks
  cell : ∀ a ∈ p.cells, h'.cell (σ.cell a) = rename σ (h.cell a)
  inj : Set.InjOn σ.cell p.cells
  injMark : Set.InjOn σ.mark p.marks
  zero : σ.mark 0 = 0

namespace Objects.Twinned

variable {h h' g g' : Objects} {σ : Renaming} {p p' : Scope}

theorem same (p : Scope) (h : Objects) : Twinned .same p p h h where
  maps _ ha := ha
  mapsMark _ hm := hm
  cell a _ := (Carries.same (h.cell a)).symm
  inj := Set.injOn_id _
  injMark := Set.injOn_id _
  zero := rfl

theorem mirrors (ht : Twinned σ p p' h h') (hg : SameOn p h g) (hg' : SameOn p' h' g') :
    Mirrors σ p g g' where
  toHolds := hg.holds
  imageSize a ha := hg'.holds.size _ (ht.maps a ha)
  cell a ha := by rw [hg'.cell _ (ht.maps a ha), hg.cell a ha, ht.cell a ha]
  inj := ht.inj
  imageMark m hm := hg'.holds.mark _ (ht.mapsMark m hm)
  injMark := ht.injMark
  imageZero := ht.zero

end Objects.Twinned

theorem Objects.SameOn.mirrors {p : Scope} {h g g' : Objects} (hg : SameOn p h g)
    (hg' : SameOn p h g') : Mirrors .same p g g' := (Twinned.same p h).mirrors hg hg'

/-- Nothing in the live scope `s` belongs to `p`, and what belongs to `p` is as in `h`. -/
structure Session.Apart (p : Scope) (h : Objects) (s : Scope) (t : Session) : Prop where
  live : t.Live s
  same : Objects.SameOn p h t.store.objects
  disjoint : ∀ a ∈ p.cells, a ∉ s.cells
  marks : p.marks ⊆ s.marks

namespace Session.Apart

variable {h : Objects} {s s' p : Scope} {t u : Session} {nodes : List Node}

theorem widened (ha : Apart p h s t) (hl : u.Live s') (hw : Widens s t.store s' u.store) :
    Apart p h s' u where
  live := hl
  same := ha.same.widened hw ha.disjoint
  disjoint := hw.disjoint ha.same.holds ha.disjoint
  marks _ hm := hw.le.2 (ha.marks hm)

theorem emptied (ha : Apart p h s t) {u : Store} (hk : t.store.Keeps u) :
    Apart p h s ⟨u, .empty⟩ :=
  ⟨ha.live.emptied hk, ha.same.kept hk.toKept, ha.disjoint, ha.marks⟩

theorem beside (ha : Apart p h s t) (hn : Within p nodes) :
    Interpreter.Beside p s nodes t.store.objects :=
  ⟨ha.same.holds.join ha.live.holds, ha.marks, hn⟩

end Session.Apart

/-- Two sessions that mirror each other, each apart from what it is to run, which is renamed by
`σ` from the one side to the other. -/
structure Session.Twins (σ : Renaming) (p p' : Scope) (h h' : Objects) (ρ : Renaming)
    (s s' : Scope) (t t' : Session) : Prop where
  linked : Linked ρ s t t'
  twinned : Objects.Twinned σ p p' h h'
  apart : t.Apart p h s
  apart' : t'.Apart p' h' s'
  marks : ∀ m ∈ p.marks, ρ.mark m = σ.mark m

namespace Session.Twins

variable {σ ρ : Renaming} {p p' s s' : Scope} {h h' : Objects} {t t' : Session}

theorem source (ht : Twins σ p p' h h' ρ s s' t t') :
    Objects.Source σ p ρ s t.store.objects t'.store.objects :=
  ⟨ht.twinned.mirrors ht.apart.same ht.apart'.same, ht.apart.marks, ht.marks⟩

theorem emptied {u u' : Store} (ht : Twins σ p p' h h' ρ s s' t t') (hk : t.store.Keeps u)
    (hk' : t'.store.Keeps u') : Twins σ p p' h h' ρ s s' ⟨u, .empty⟩ ⟨u', .empty⟩ where
  linked := ⟨ht.linked.toLinked.kept hk.toKept hk'.toKept hk.root hk'.root,
    fun _ he => (nomatch he), within_nil s, rfl⟩
  twinned := ht.twinned
  apart := ht.apart.emptied hk
  apart' := ht.apart'.emptied hk'
  marks := ht.marks

end Session.Twins

def Ending.Follows (ρ : Renaming) (s : Scope) : Ending → Ending → Prop
  | .halted k, .halted k' => k' = k
  | .failed k f, .failed k' f' => k' = k ∧ f.Alike f'
  | .unfinished k c, .unfinished k' c' => k' = k ∧ Within s c ∧ c' = rename ρ c
  | _, _ => False

namespace Interpreter

variable {i : Interpreter} {nodes : List Node} {entry current : Value} {submitted : Submission}
  {h h' : Objects} {σ ρ : Renaming} {p p' s s₂ : Scope} {t t' : Session}

def Comes (e e' : Ending × Session) : Prop :=
  ∃ ρ s, Session.Linked ρ s e.2 e'.2 ∧ Ending.Follows ρ s e.1 e'.1

/-- What they come to has the same trees: of the document, and of each record under
its key. -/
theorem Comes.unfold {e e' : Ending × Session} (hc : Comes e e') :
    (e'.2.store.objects.unfold e'.2.store.root).unmarked =
        (e.2.store.objects.unfold e.2.store.root).unmarked ∧
      e'.2.record.entries.map (fun r => (r.1, (e'.2.store.objects.unfold r.2).unmarked)) =
        e.2.record.entries.map fun r => (r.1, (e.2.store.objects.unfold r.2).unmarked) := by
  obtain ⟨ρ, s, hl, -⟩ := hc
  constructor
  · rw [hl.imageRoot]
    exact hl.unmarked_unfold hl.root
  · have hr : e'.2.record.entries = e.2.record.entries.map fun r => (r.1, rename ρ r.2) :=
      congrArg Record.entries hl.imageRecord
    rw [hr, List.map_map]
    exact List.map_congr_left fun r hmem => Prod.ext rfl (hl.unmarked_unfold (hl.record r hmem))

/-- A turn on the one side and the turn on the other come to the same, and leave twins. -/
theorem turn_twins (hreg : i.registry.Local) (ht : Session.Twins σ p p' h h' ρ s s₂ t t')
    (steps : Nat) (hn : Within p nodes) (hn' : Within p' (rename σ nodes)) (hc : Within s current)
    (hc' : Within s₂ (rename ρ current)) {r r' : Except Fault Node.Evaluation} {u u' : Session}
    (hturn : (i.turn nodes steps current).run t = (r, u))
    (hturn' : (i.turn (rename σ nodes) steps (rename ρ current)).run t' = (r', u')) :
    ∃ ρ₁ s₁ s₃, Session.Twins σ p p' h h' ρ₁ s₁ s₃ u u' ∧ Widens s t.store s₁ u.store ∧
      Matches ρ₁ s₁ r r' ∧ ∀ e, r' = .ok e → Within s₃ e := by
  obtain ⟨ρ₁, s₁, hl₁, hg₁, hr⟩ := turn_follows hreg ht.linked ht.source steps hn hc
  rw [hturn'] at hl₁ hr
  rw [hturn] at hl₁ hg₁ hr
  obtain ⟨s₃, hl₃, hw₃, he₃⟩ := turn_live hreg ht.apart'.live (ht.apart'.beside hn') hc' hturn'
  have hmarks : ∀ m ∈ p.marks, ρ₁.mark m = σ.mark m := fun m hm =>
    (hg₁.agrees.mark m (ht.apart.marks hm)).trans (ht.marks m hm)
  exact ⟨ρ₁, s₁, s₃, ⟨hl₁, ht.twinned, ht.apart.widened hl₁.live hg₁.toWidens,
    ht.apart'.widened hl₃ hw₃, hmarks⟩, hg₁.toWidens, hr, he₃⟩

theorem walk_follows (hreg : i.registry.Local) (turns steps : Nat)
    (ht : Session.Twins σ p p' h h' ρ s s₂ t t') (hn : Within p nodes)
    (hn' : Within p' (rename σ nodes)) (hc : Within s current)
    (hc' : Within s₂ (rename ρ current)) :
    Comes (i.walk nodes turns steps current t)
      (i.walk (rename σ nodes) turns steps (rename ρ current) t') := by
  induction turns generalizing steps ρ s s₂ t t' current with
  | zero =>
    by_cases hnull : current = .null
    · subst hnull
      exact ⟨ρ, s, ht.linked, rfl⟩
    · have hnull' : rename ρ current ≠ .null := fun he => hnull (Reply.rename_eq_null_iff.1 he)
      rw [walk_zero hnull, walk_zero hnull']
      exact ⟨ρ, s, ht.linked, rfl, hc, rfl⟩
  | succ turns ih =>
    by_cases hnull : current = .null
    · subst hnull
      exact ⟨ρ, s, ht.linked, rfl⟩
    · have hnull' : rename ρ current ≠ .null := fun he => hnull (Reply.rename_eq_null_iff.1 he)
      rw [walk_succ hnull, walk_succ hnull']
      cases hturn : (i.turn nodes steps current).run t with
      | mk r u =>
        cases hturn' : (i.turn (rename σ nodes) steps (rename ρ current)).run t' with
        | mk r' u' =>
          obtain ⟨ρ₁, s₁, s₃, ht₁, -, hr, he₃⟩ :=
            turn_twins hreg ht steps hn hn' hc hc' hturn hturn'
          obtain ⟨e, rfl, rfl, he⟩ | ⟨f, f', rfl, rfl, hf⟩ := Matches.split hr
          · exact ih (steps + 1) ht₁ he.2 (he₃ _ rfl).2
          · exact ⟨ρ₁, s₁, ht₁.linked, rfl, hf⟩

theorem Comes.conclude {e e' : Ending × Session} (h : Comes e e') :
    Comes (conclude e) (conclude e') := by
  obtain ⟨ρ, s, hl, he⟩ := h
  obtain ⟨ending, t⟩ := e
  obtain ⟨ending', t'⟩ := e'
  refine ⟨ρ, s, ?_⟩
  have halted (n n' : Notice) : Session.Linked ρ s
      ⟨{ t.store with log := t.store.log.push n }, t.record⟩
      ⟨{ t'.store with log := t'.store.log.push n' }, t'.record⟩ :=
    ⟨⟨hl.toMirrors, hl.root, hl.imageRoot⟩, hl.nodes, hl.record, hl.imageRecord⟩
  cases ending with
  | halted k =>
    cases ending' with
    | halted k' => exact ⟨halted _ _, he⟩
    | _ => exact he.elim
  | failed k f =>
    cases ending' with
    | failed k' f' => exact ⟨hl, he⟩
    | _ => exact he.elim
  | unfinished k c =>
    cases ending' with
    | unfinished k' c' => exact ⟨hl, he⟩
    | _ => exact he.elim

theorem start_twins
    (ht : Session.Twins σ p p' h h' ρ s s₂ ⟨t.store, .empty⟩ ⟨t'.store, .empty⟩)
    (hsub : Within p submitted) (hsub' : Within p' (rename σ submitted)) (hentry : Within p entry) :
    ∃ r r' u u', (start entry submitted).run t = (r, u) ∧
      (start (rename σ entry) (rename σ submitted)).run t' = (r', u') ∧
      Session.Twins σ p p' h h' ρ s s₂ u u' ∧ t.store.Keeps u.store ∧
      ((∃ nodes n, r = .ok nodes ∧ r' = .ok (rename σ nodes) ∧ Within p nodes ∧
          Within p' (rename σ nodes) ∧ entry = .int n) ∨
        ∃ f f', r = .error f ∧ r' = .error f' ∧ f.Alike f') := by
  have hm := ht.source.toMirrors
  dsimp only at hm
  have hunfold := hm.unmarked_unfold hentry
  have hplain := hm.plain?_rename hentry
  rw [run_start, run_start]
  obtain ⟨nodes, hn, hn', hw⟩ | ⟨f, f', hf, hf', hfault⟩ := (Node.parseAll_rename hm hsub).split
  · have hw' := within_parseAll ht.apart'.same.holds hsub' hn'
    rw [hn, hn']
    dsimp only
    rw [hplain]
    cases t.store.objects.plain? entry with
    | none => exact ⟨_, _, _, _, rfl, rfl, ht, .refl _, .inr ⟨_, _, rfl, rfl, .refl _⟩⟩
    | some text =>
      dsimp only
      have hk (x : Store) (ns : List Node) :
          x.Keeps { x with log := x.log.push (startNotice ns text) } := ⟨.refl _, rfl⟩
      have ht' := ht.emptied (hk t.store nodes) (hk t'.store (rename σ nodes))
      rw [find?_rename]
      cases hfind : find? nodes entry with
      | none =>
        refine ⟨_, _, _, _, rfl, rfl, ht', hk _ _, .inr ⟨_, _, rfl, rfl, .settled ?_⟩⟩
        show Fault.invalidIndex _ _ = Fault.invalidIndex _ _
        rw [hunfold, length_rename]
      | some q =>
        obtain ⟨hq, -⟩ := find?_eq_some_iff.1 hfind
        exact ⟨_, _, _, _, rfl, rfl, ht', hk _ _, .inl ⟨nodes, q.1, rfl, rfl, hw, hw', hq⟩⟩
  · rw [hf, hf']
    exact ⟨_, _, _, _, rfl, rfl, ht, .refl _, .inr ⟨_, _, rfl, rfl, hfault.settled⟩⟩

theorem run_follows (hreg : i.registry.Local) (turns : Nat)
    (ht : Session.Twins σ p p' h h' ρ s s₂ ⟨t.store, .empty⟩ ⟨t'.store, .empty⟩)
    (hsub : Within p submitted) (hsub' : Within p' (rename σ submitted)) (hentry : Within p entry) :
    Comes (i.run turns entry submitted t)
      (i.run turns (rename σ entry) (rename σ submitted) t') := by
  obtain ⟨r, r', u, u', hstart, hstart', ht₁, -, hends⟩ := start_twins ht hsub hsub' hentry
  unfold run
  rw [hstart, hstart']
  obtain ⟨nodes, n, rfl, rfl, hn, hn', rfl⟩ | ⟨f, f', rfl, rfl, hf⟩ := hends
  · exact (walk_follows hreg turns 0 ht₁ hn hn' (within_int s n) (within_int s₂ n)).conclude
  · exact ⟨ρ, s, ht₁.linked, rfl, hf⟩

end Interpreter
end NodeWalk
