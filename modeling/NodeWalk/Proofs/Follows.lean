import NodeWalk.Proofs.Actions
import NodeWalk.Proofs.MirroredWrites

set_option autoImplicit false

/-!
# Actions that follow each other

Two actions, each on its own store, follow each other if from mirrored stores they
come to mirrored stores and to results that are renamed alike. On the way the scope
may take in new cells, but nothing outside it is touched. The rules below go through
an action from its parts; nothing is asked of the logs.
-/
namespace NodeWalk

/-- The objects are mirrored, the document among them. -/
structure Linked (ρ : Renaming) (s : Scope) (t t' : Store) : Prop
    extends Objects.Mirrors ρ s t.objects t'.objects where
  root : Within s t.root
  imageRoot : t'.root = rename ρ t.root

/-- From the one scope to the other: what it took in is new, and what is outside it
has not changed. -/
structure Widens (s : Scope) (t : Store) (s' : Scope) (u : Store) : Prop where
  le : s ≤ s'
  fresh : ∀ a ∈ s'.cells, a ∉ s.cells → t.objects.cells.size ≤ a
  frame : ∀ a, a < t.objects.cells.size → a ∉ s.cells → u.objects.cell a = t.objects.cell a
  size : t.objects.cells.size ≤ u.objects.cells.size
  mark : t.objects.nextMark ≤ u.objects.nextMark

structure Grows (ρ : Renaming) (s : Scope) (t : Store) (ρ' : Renaming) (s' : Scope) (u : Store) :
    Prop extends Widens s t s' u where
  agrees : ρ'.Agrees ρ s

/-- Results that are renamed alike, or faults that differ in marks only. -/
def Matches {α : Type} [Carries α] (ρ : Renaming) (s : Scope) :
    Except Fault α → Except Fault α → Prop
  | .ok a, .ok a' => Within s a ∧ a' = rename ρ a
  | .error f, .error f' => f.Alike f'
  | _, _ => False

def Follows {α : Type} [Carries α] (ρ : Renaming) (s : Scope) (t t' : Store)
    (m m' : StoreM α) : Prop :=
  ∃ ρ' s', Linked ρ' s' (m.run t).2 (m'.run t').2 ∧ Grows ρ s t ρ' s' (m.run t).2 ∧
    Matches ρ' s' (m.run t).1 (m'.run t').1

section

variable {α β : Type} [Carries α] [Carries β] {ρ ρ' σ : Renaming} {s s' p : Scope}
  {t t' u u' : Store}

namespace Widens

theorem kept (s : Scope) (hk : t.objects.Kept u.objects) : Widens s t s u where
  le := s.le_refl
  fresh _ ha hn := absurd ha hn
  frame a ha _ := hk.cell a ha
  size := hk.size
  mark := hk.mark

theorem refl (s : Scope) (t : Store) : Widens s t s t := .kept s (.refl _)

theorem trans {s'' : Scope} {w : Store} (h : Widens s t s' u) (h' : Widens s' u s'' w) :
    Widens s t s'' w where
  le := Scope.le_trans h.le h'.le
  fresh a ha hn := by
    by_cases hs : a ∈ s'.cells
    · exact h.fresh a hs hn
    · exact Nat.le_trans h.size (h'.fresh a ha hs)
  frame a ha hn := by
    have hs : a ∉ s'.cells := fun hs => absurd (h.fresh a hs hn) (Nat.not_le_of_lt ha)
    rw [h'.frame a (Nat.lt_of_lt_of_le ha h.size) hs, h.frame a ha hn]
  size := Nat.le_trans h.size h'.size
  mark := Nat.le_trans h.mark h'.mark

end Widens

namespace Grows

theorem refl (ρ : Renaming) (s : Scope) (t : Store) : Grows ρ s t ρ s t where
  toWidens := .refl s t
  agrees := .refl ρ s

theorem trans {ρ'' : Renaming} {s'' : Scope} {w : Store} (h : Grows ρ s t ρ' s' u)
    (h' : Grows ρ' s' u ρ'' s'' w) : Grows ρ s t ρ'' s'' w where
  toWidens := h.toWidens.trans h'.toWidens
  agrees := (h'.agrees.of_le h.le).trans h.agrees

end Grows

namespace Matches

theorem split {r r' : Except Fault α} (h : Matches ρ s r r') :
    (∃ a, r = .ok a ∧ r' = .ok (rename ρ a) ∧ Within s a) ∨
      ∃ f f', r = .error f ∧ r' = .error f' ∧ f.Alike f' := by
  cases r with
  | error f =>
    cases r' with
    | error f' => exact .inr ⟨f, f', rfl, rfl, h⟩
    | ok a' => exact h.elim
  | ok a =>
    cases r' with
    | error f' => exact h.elim
    | ok a' => exact .inl ⟨a, rfl, congrArg Except.ok h.2, h.1⟩

theorem mono {r r' : Except Fault α} (h : Matches ρ s r r') (hs : s ≤ s')
    (ha : ρ'.Agrees ρ s) : Matches ρ' s' r r' := by
  obtain ⟨a, rfl, rfl, hw⟩ | ⟨f, f', rfl, rfl, hf⟩ := h.split
  · exact ⟨Carries.mono hs hw, Carries.congr ha.symm hw⟩
  · exact hf

theorem bind {r r' : Except Fault α} {k k' : α → Except Fault β} (h : Matches ρ s r r')
    (hk : ∀ a, Within s a → Matches ρ s (k a) (k' (rename ρ a))) :
    Matches ρ s (r >>= k) (r' >>= k') := by
  obtain ⟨a, rfl, rfl, hw⟩ | ⟨f, f', rfl, rfl, hf⟩ := h.split
  · exact hk a hw
  · exact hf

end Matches

namespace Follows

variable {m m' : StoreM α}

theorem of_matches {r r' : Except Fault α} {v v' : Store} (hm : m.run t = (r, v))
    (hm' : m'.run t' = (r', v')) (hl : Linked ρ' s' v v') (hg : Grows ρ s t ρ' s' v)
    (hr : Matches ρ' s' r r') : Follows ρ s t t' m m' := by
  refine ⟨ρ', s', ?_⟩
  rw [hm, hm']
  exact ⟨hl, hg, hr⟩

theorem pure (hl : Linked ρ s t t') {a : α} (ha : Within s a) :
    Follows ρ s t t' (Pure.pure a) (Pure.pure (rename ρ a)) :=
  ⟨ρ, s, hl, .refl ρ s t, ha, rfl⟩

theorem throw (hl : Linked ρ s t t') {f f' : Fault} (hf : f.Alike f') :
    Follows (α := α) ρ s t t' (MonadExcept.throw f) (MonadExcept.throw f') :=
  ⟨ρ, s, hl, .refl ρ s t, hf⟩

theorem fail (hl : Linked ρ s t t') {f f' : Fault} (hf : f.Alike f') :
    Follows (α := α) ρ s t t' (StoreM.fail f) (StoreM.fail f') :=
  ⟨ρ, s, hl, .refl ρ s t, hf.settled⟩

theorem report (hl : Linked ρ s t t') (n n' : Notice) :
    Follows ρ s t t' (StoreM.report n) (StoreM.report n') :=
  ⟨ρ, s, ⟨hl.toMirrors, hl.root, hl.imageRoot⟩,
    ⟨.kept s (.refl _), .refl ρ s⟩, trivial, rfl⟩

theorem ofExcept (hl : Linked ρ s t t') {r r' : Except Fault α} (hr : Matches ρ s r r') :
    Follows ρ s t t' (StoreM.ofExcept r) (StoreM.ofExcept r') := by
  obtain ⟨a, rfl, rfl, hw⟩ | ⟨f, f', rfl, rfl, hf⟩ := hr.split
  · exact .pure hl hw
  · exact .fail hl hf

theorem bind {k k' : α → StoreM β} (hm : Follows ρ s t t' m m')
    (hk : ∀ ρ' s' u u' a, Linked ρ' s' u u' → Grows ρ s t ρ' s' u → Within s' a →
      m.run t = (.ok a, u) → m'.run t' = (.ok (rename ρ' a), u') →
      Follows ρ' s' u u' (k a) (k' (rename ρ' a))) :
    Follows ρ s t t' (m >>= k) (m' >>= k') := by
  obtain ⟨ρ', s', hl, hg, hr⟩ := hm
  cases h : m.run t with
  | mk r u =>
    cases h' : m'.run t' with
    | mk r' u' =>
      rw [h, h'] at hl hr
      rw [h] at hg
      obtain ⟨a, rfl, rfl, ha⟩ | ⟨f, f', rfl, rfl, hf⟩ := Matches.split hr
      · obtain ⟨ρ'', s'', hl', hg', hr'⟩ := hk ρ' s' u u' a hl hg ha h h'
        refine ⟨ρ'', s'', ?_⟩
        rw [run_bind_ok h, run_bind_ok h']
        exact ⟨hl', hg.trans hg', hr'⟩
      · exact of_matches (run_bind_error h) (run_bind_error h') hl hg hf

theorem tryCatch {handle handle' : Fault → StoreM α} (hm : Follows ρ s t t' m m')
    (hh : ∀ ρ' s' u u' f f', Linked ρ' s' u u' → Grows ρ s t ρ' s' u → f.Alike f' →
      Follows ρ' s' u u' (handle f) (handle' f')) :
    Follows ρ s t t' (MonadExcept.tryCatch m handle) (MonadExcept.tryCatch m' handle') := by
  obtain ⟨ρ', s', hl, hg, hr⟩ := hm
  cases h : m.run t with
  | mk r u =>
    cases h' : m'.run t' with
    | mk r' u' =>
      rw [h, h'] at hl hr
      rw [h] at hg
      obtain ⟨a, rfl, rfl, ha⟩ | ⟨f, f', rfl, rfl, hf⟩ := Matches.split hr
      · have hrun : (MonadExcept.tryCatch m handle).run t = (.ok a, u) := by
          rw [run_tryCatch, h]
        have hrun' : (MonadExcept.tryCatch m' handle').run t' = (.ok (rename ρ' a), u') := by
          rw [run_tryCatch, h']
        exact of_matches hrun hrun' hl hg ⟨ha, rfl⟩
      · obtain ⟨ρ'', s'', hl', hg', hr'⟩ := hh ρ' s' u u' f f' hl hg hf
        refine ⟨ρ'', s'', ?_⟩
        rw [run_tryCatch, run_tryCatch, h, h']
        exact ⟨hl', hg.trans hg', hr'⟩

theorem objects {k k' : Objects → StoreM α}
    (h : Follows ρ s t t' (k t.objects) (k' t'.objects)) :
    Follows ρ s t t' (StoreM.objects >>= k) (StoreM.objects >>= k') := by
  obtain ⟨ρ', s', h⟩ := h
  refine ⟨ρ', s', ?_⟩
  rw [run_bind_ok (StoreM.run_objects t), run_bind_ok (StoreM.run_objects t')]
  exact h

theorem plain (hl : Linked ρ s t t') {v : Value} (hv : Within s v) :
    Follows ρ s t t' (StoreM.plain v) (StoreM.plain (rename ρ v)) := by
  refine .objects ?_
  rw [hl.plain?_rename hv]
  cases t.objects.plain? v with
  | none => exact .fail hl (.refl _)
  | some text => exact .pure hl trivial

theorem shown (hl : Linked ρ s t t') {v : Value} (hv : Within s v) :
    Follows ρ s t t' (StoreM.shown v) (StoreM.shown (rename ρ v)) := by
  refine .objects ?_
  rw [hl.shown?_rename hv]
  cases t.objects.shown? v with
  | none => exact .fail hl (.refl _)
  | some text => exact .pure hl trivial

end Follows

theorem Linked.kept (hl : Linked ρ s t t') {u u' : Store} (hk : t.objects.Kept u.objects)
    (hk' : t'.objects.Kept u'.objects) (hr : u.root = t.root) (hr' : u'.root = t'.root) :
    Linked ρ s u u' where
  toMirrors := hl.toMirrors.kept hk hk'
  root := by rw [hr]; exact hl.root
  imageRoot := by rw [hr', hl.imageRoot, hr]

theorem Linked.withObjects (hl : Linked ρ s t t') {h h' : Objects}
    (hm : Objects.Mirrors ρ' s' h h') (hle : s ≤ s') (ha : ρ'.Agrees ρ s) :
    Linked ρ' s' (t.withObjects h) (t'.withObjects h') where
  toMirrors := hm
  root := Carries.mono hle hl.root
  imageRoot := hl.imageRoot.trans (Carries.congr ha.symm hl.root)

theorem grows_append (hl : Linked ρ s t t') (cs : List Cell) :
    Grows ρ s t (ρ.shifted t.objects.cells.size t'.objects.cells.size)
      (s.plus t.objects.cells.size cs.length) (t.withObjects (t.objects.append cs)) where
  le := s.le_plus _ _
  agrees := hl.agrees_shifted
  fresh a ha hn := (ha.resolve_left hn).1
  frame a ha _ := Objects.cell_append_of_lt ha cs
  size := by simp [Store.withObjects]
  mark := Nat.le_refl _

namespace Follows

theorem newCell (hl : Linked ρ s t t') {c : Cell} (hc : Within s c)
    {f f' : Objects → Value × Objects}
    (hf : f t.objects = (.ref t.objects.cells.size, t.objects.append [c]))
    (hf' : f' t'.objects = (.ref t'.objects.cells.size, t'.objects.append [rename ρ c])) :
    Follows ρ s t t' (StoreM.extend f) (StoreM.extend f') := by
  have hcs : Within (s.plus t.objects.cells.size [c].length) [c] :=
    within_cons.2 ⟨Carries.mono (s.le_plus _ _) hc, within_nil _⟩
  have hm := hl.toMirrors.append hcs
  have hc' : rename (ρ.shifted t.objects.cells.size t'.objects.cells.size) [c] =
      [rename ρ c] := by
    rw [rename_cons, rename_nil, Carries.congr hl.agrees_shifted hc]
  rw [hc'] at hm
  have hr : (StoreM.extend f).run t = (.ok (.ref t.objects.cells.size),
      t.withObjects (t.objects.append [c])) := by
    rw [StoreM.run_extend, hf, Store.withObjects]
  have hr' : (StoreM.extend f').run t' = (.ok (.ref t'.objects.cells.size),
      t'.withObjects (t'.objects.append [rename ρ c])) := by
    rw [StoreM.run_extend, hf', Store.withObjects]
  refine of_matches hr hr' (hl.withObjects hm (s.le_plus _ _) hl.agrees_shifted)
    (grows_append hl _) ?_
  refine ⟨Scope.mem_plus (i := 0) Nat.one_pos, ?_⟩
  exact congrArg Value.ref (ρ.shifted_add t.objects.cells.size t'.objects.cells.size 0).symm

theorem newObject (hl : Linked ρ s t t') {es : Entries Value} (hes : Within s es) :
    Follows ρ s t t' (StoreM.extend (Objects.newObject es))
      (StoreM.extend (Objects.newObject (rename ρ es))) :=
  newCell hl (within_object.2 hes) (Objects.newObject_eq _ _) (Objects.newObject_eq _ _)

theorem newArray (hl : Linked ρ s t t') {items : List Value} (hitems : Within s items) :
    Follows ρ s t t' (StoreM.extend (Objects.newArray items))
      (StoreM.extend (Objects.newArray (rename ρ items))) :=
  newCell hl (within_array.2 hitems) (Objects.newArray_eq _ _) (Objects.newArray_eq _ _)

/-- A copy enters the scope; what it was made from need not be in it. -/
theorem copy (hl : Linked ρ s t t')
    (hp : Objects.Source σ p ρ s t.objects t'.objects) {v : Value} (hv : Within p v) :
    Follows ρ s t t' (StoreM.extend (Objects.copy v))
      (StoreM.extend (Objects.copy (rename σ v))) := by
  obtain ⟨hm, hw, hr⟩ := hl.toMirrors.copy hp hv
  have hg := grows_append hl (t.objects.copies v)
  rw [Objects.length_copies, Store.withObjects] at hg
  refine of_matches (StoreM.run_extend _ _) (StoreM.run_extend _ _)
    (hl.withObjects hm (s.le_plus _ _) hl.agrees_shifted) ?_ ⟨hw, hr⟩
  rw [Objects.copy_eq]
  exact hg

theorem put (hl : Linked ρ s t t') {a : Addr} (ha : a ∈ s.cells) {c : Cell} (hc : Within s c) :
    Follows ρ s t t' (StoreM.setObjects (t.objects.put a c))
      (StoreM.setObjects (t'.objects.put (ρ.cell a) (rename ρ c))) := by
  refine of_matches (StoreM.run_setObjects _ _) (StoreM.run_setObjects _ _)
    (hl.withObjects (hl.toMirrors.put ha hc) s.le_refl (.refl ρ s)) ?_
    ⟨trivial, rfl⟩
  refine ⟨⟨s.le_refl, fun _ ha hn => absurd ha hn, fun b _ hn => ?_, ?_, Nat.le_refl _⟩,
    .refl ρ s⟩
  · exact Objects.cell_put_of_ne (fun hab : a = b => hn (hab ▸ ha)) _ _
  · rw [Objects.size_put]

end Follows

namespace Objects

theorem Source.kept {h h' g g' : Objects} (hp : Source σ p ρ s h h') (hk : h.Kept g)
    (hk' : h'.Kept g') (hs : s ≤ s') (ha : ρ'.Agrees ρ s) : Source σ p ρ' s' g g' where
  toMirrors := hp.toMirrors.kept hk hk'
  marks := fun _ hm => hs.2 (hp.marks hm)
  agrees m hm := (ha.mark m (hp.marks hm)).trans (hp.agrees m hm)

theorem Mirrors.source {h h' : Objects} (hm : Mirrors ρ s h h') : Source ρ s ρ s h h' where
  toMirrors := hm
  marks := fun _ h => h
  agrees _ _ := rfl

end Objects

namespace Follows

variable {m m' n n' : StoreM α}

theorem of_run (hm : m.run t = n.run t) (hm' : m'.run t' = n'.run t')
    (h : Follows ρ s t t' n n') : Follows ρ s t t' m m' := by
  unfold Follows at h ⊢
  rw [hm, hm']
  exact h

theorem passed {γ γ' : Type} {c : γ} {c' : γ'} {k : γ → StoreM α} {k' : γ' → StoreM α}
    (h : Follows ρ s t t' (k c) (k' c')) :
    Follows ρ s t t' (StoreM.ofExcept (.ok c) >>= k) (StoreM.ofExcept (.ok c') >>= k') :=
  of_run (run_bind_ok (StoreM.run_ofExcept_ok c t)) (run_bind_ok (StoreM.run_ofExcept_ok c' t')) h

theorem refused {γ γ' : Type} (hl : Linked ρ s t t') {f f' : Fault} (hf : f.Alike f')
    (k : γ → StoreM α) (k' : γ' → StoreM α) :
    Follows ρ s t t' (StoreM.ofExcept (.error f) >>= k) (StoreM.ofExcept (.error f') >>= k') :=
  of_run (run_bind_error (StoreM.run_ofExcept_error f t))
    (run_bind_error (StoreM.run_ofExcept_error f' t')) (.throw hl hf.settled)

theorem of_kept (hm : m.run t = n.run u) (hm' : m'.run t' = n'.run u')
    (hk : t.objects.Kept u.objects) (h : Follows ρ s u u' n n') : Follows ρ s t t' m m' := by
  obtain ⟨ρ', s', hl, hg, hr⟩ := h
  refine ⟨ρ', s', ?_⟩
  rw [hm, hm']
  exact ⟨hl, ⟨(Widens.kept s hk).trans hg.toWidens, hg.agrees⟩, hr⟩

theorem copyEntries (hl : Linked ρ s t t') (hp : Objects.Source σ p ρ s t.objects t'.objects)
    {es : Entries Value} (hes : Within p es) :
    Follows ρ s t t'
      (StoreM.extend fun h =>
        let (flow, h) := h.newObject es
        h.copy flow)
      (StoreM.extend fun h =>
        let (flow, h) := h.newObject (rename σ es)
        h.copy flow) := by
  have hcs : Within (p.plus t.objects.cells.size [Cell.object es].length) [Cell.object es] :=
    within_cons.2 ⟨Carries.mono (p.le_plus _ _) (within_object.2 hes), within_nil _⟩
  have hm := hp.toMirrors.append hcs
  have hes' : rename (σ.shifted t.objects.cells.size t'.objects.cells.size) [Cell.object es] =
      [.object (rename σ es)] := by
    rw [rename_cons, rename_nil, rename_object, Carries.congr hp.agrees_shifted hes]
  rw [hes'] at hm
  have hk := Objects.kept_append t.objects [Cell.object es]
  have hk' := Objects.kept_append t'.objects [Cell.object (rename σ es)]
  have hl' : Linked ρ s (t.withObjects (t.objects.append [.object es]))
      (t'.withObjects (t'.objects.append [.object (rename σ es)])) := hl.kept hk hk' rfl rfl
  have hp' : Objects.Source (σ.shifted t.objects.cells.size t'.objects.cells.size)
      (p.plus t.objects.cells.size [Cell.object es].length) ρ s
      (t.withObjects (t.objects.append [.object es])).objects
      (t'.withObjects (t'.objects.append [.object (rename σ es)])).objects :=
    ⟨hm, hp.marks, hp.agrees⟩
  have hv : Within (p.plus t.objects.cells.size [Cell.object es].length)
      (Value.ref t.objects.cells.size) := Scope.mem_plus (i := 0) Nat.one_pos
  have hc := Follows.copy hl' hp' hv
  have hroot : rename (σ.shifted t.objects.cells.size t'.objects.cells.size)
      (Value.ref t.objects.cells.size) = .ref t'.objects.cells.size :=
    congrArg Value.ref (σ.shifted_add t.objects.cells.size t'.objects.cells.size 0)
  rw [hroot] at hc
  refine of_kept ?_ ?_ hk hc
  · rw [StoreM.run_extend, StoreM.run_extend, Objects.newObject_eq]
    rfl
  · rw [StoreM.run_extend, StoreM.run_extend, Objects.newObject_eq]
    rfl

end Follows

end
end NodeWalk
