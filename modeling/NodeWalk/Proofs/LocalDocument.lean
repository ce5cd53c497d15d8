import NodeWalk.Proofs.LocalBehavior

set_option autoImplicit false

/-!
# Local access to the document

Reading and writing the document touch only what the document leads to and what is
written. A value is put there as it is, not as a copy, so it stays in the scope that
it was in.
-/
namespace NodeWalk

structure Image {α : Type} [Carries α] (ρ : Renaming) (s : Scope) (a a' : α) : Prop where
  within : Within s a
  eq : a' = rename ρ a

section

variable {α β : Type} [Carries α] [Carries β] {ρ ρ' : Renaming} {s s' : Scope}
  {t t' u : Store} {a a' : α}

theorem Image.grows (h : Image ρ s a a') (hg : Grows ρ s t ρ' s' u) : Image ρ' s' a a' :=
  ⟨Carries.mono hg.le h.within, h.eq.trans (Carries.congr hg.agrees.symm h.within)⟩

namespace Follows

theorem image (hl : Linked ρ s t t') (h : Image ρ s a a') :
    Follows ρ s t t' (Pure.pure a) (Pure.pure a') := by
  rw [h.eq]
  exact .pure hl h.within

theorem step {m m' : StoreM α} {k k' : α → StoreM β} (hm : Follows ρ s t t' m m')
    (hk : ∀ {ρ' s' u u' a a'}, Linked ρ' s' u u' → Grows ρ s t ρ' s' u → Image ρ' s' a a' →
      Follows ρ' s' u u' (k a) (k' a')) :
    Follows ρ s t t' (m >>= k) (m' >>= k') :=
  hm.bind fun _ _ _ _ _ hl hg ha _ _ => hk hl hg ⟨ha, rfl⟩

theorem known (hl : Linked ρ s t t') {r r' : Except Fault α} (hr : Matches ρ s r r')
    {k k' : α → StoreM β}
    (hk : ∀ {a a'}, Image ρ s a a' → Follows ρ s t t' (k a) (k' a')) :
    Follows ρ s t t' (StoreM.ofExcept r >>= k) (StoreM.ofExcept r' >>= k') := by
  obtain ⟨a, rfl, rfl, ha⟩ | ⟨f, f', rfl, rfl, hf⟩ := hr.split
  · exact .passed (hk ⟨ha, rfl⟩)
  · exact .refused hl hf _ _

end Follows

namespace Document

variable {h h' : Objects} {v v' w w' : Value} {path : Text} {tokens : List Text}

theorem pointer_rename (hm : Objects.Mirrors ρ s h h') (hv : Within s v) :
    Matches ρ s (Pointer.ofValue h v) (Pointer.ofValue h' (rename ρ v)) := by
  have hkind : (Fault.lacks (h.kind v) "startswith").Alike
      (.lacks (h'.kind (rename ρ v)) "startswith") := by
    rw [hm.kind_rename hv]
    exact .refl _
  cases v with
  | ref a => exact hkind
  | scalar b =>
    cases b with
    | text x => exact ⟨trivial, rfl⟩
    | _ => exact hkind

theorem matches_plain {γ : Type} [Carries γ] (hγ : ∀ (c : γ), Within s c ∧ rename ρ c = c)
    (r : Except Fault γ) : Matches ρ s r r := by
  cases r with
  | error f => exact Fault.Alike.refl f
  | ok c => exact ⟨(hγ c).1, (hγ c).2.symm⟩

theorem matches_index (path : Text) (length : Nat) (token : Text) (append : Bool) :
    Matches ρ s (index path length token append) (index path length token append) :=
  matches_plain (fun _ => ⟨trivial, rfl⟩) _

theorem within_item {items : List Value} (hi : Within s items) (i : Nat) :
    Within s ((items[i]?).getD .null) := by
  cases hget : items[i]? with
  | none => exact within_null s
  | some v => exact hi v (List.mem_of_getElem? hget)

theorem item_rename (ρ : Renaming) (items : List Value) (i : Nat) :
    ((rename ρ items)[i]?).getD .null = rename ρ ((items[i]?).getD .null) := by
  rw [rename_list, List.getElem?_map]
  cases items[i]? <;> rfl

theorem walk_rename (hm : Objects.Mirrors ρ s h h') (path : Text) (tokens : List Text)
    (hv : Within s v) : Matches ρ s (walk h path tokens v) (walk h' path tokens (rename ρ v)) := by
  induction tokens generalizing v with
  | nil => exact ⟨hv, rfl⟩
  | cons token tokens ih =>
    have hf := hm.within_find? hv
    unfold walk
    rw [hm.find?_rename hv]
    cases hc : h.find? v with
    | none => exact Fault.Alike.refl _
    | some c =>
      rw [hc] at hf
      cases c with
      | object entries =>
        have hg := Entries.within_get? (within_object.1 (within_some.1 hf)) token
        simp only [rename_some, rename_object, Entries.get?_rename]
        cases hget : Entries.get? token entries with
        | none => exact Fault.Alike.refl _
        | some x =>
          rw [hget] at hg
          exact ih (within_some.1 hg)
      | array items =>
        simp only [rename_some, rename_array, length_rename]
        refine (matches_index path items.length token false).bind fun i _ => ?_
        have hi : rename ρ i = i := rfl
        rw [hi, item_rename]
        exact ih (within_item (within_array.1 (within_some.1 hf)) i)

theorem get_rename (hm : Objects.Mirrors ρ s h h') {root : Value} (hr : Within s root)
    (hv : Within s v) : Matches ρ s (get h root v) (get h' (rename ρ root) (rename ρ v)) := by
  refine (pointer_rename hm hv).bind fun path _ => ?_
  refine Matches.bind (matches_plain (fun _ => ⟨fun _ _ => trivial, ?_⟩) _) fun tokens _ => ?_
  · rw [rename_list]
    exact List.map_id _
  · have ht : rename ρ tokens = tokens := List.map_id _
    rw [ht]
    exact walk_rename hm path tokens hr

theorem putEntry_follows (hl : Linked ρ s t t') {a : Addr} (ha : a ∈ s.cells)
    {entries entries' : Entries Value} (hes : Image ρ s entries entries') (token : Text)
    (hw : Image ρ s w w') :
    Follows ρ s t t'
      (StoreM.setObjects (t.objects.put a (.object (Entries.set token w entries))))
      (StoreM.setObjects
        (t'.objects.put (ρ.cell a) (.object (Entries.set token w' entries')))) := by
  have hput := Follows.put hl ha (within_object.2 (Entries.within_set hw.within hes.within token))
  rw [rename_object, ← Entries.set_rename, ← hw.eq, ← hes.eq] at hput
  exact hput

/-- A missing object is made before the entry that refers to it. -/
theorem run_descend_missing (b : Addr) (token : Text) (es : Entries Value) (x : Store) :
    (do
      let (w, h) := x.objects.newObject []
      StoreM.setObjects (h.put b (.object (Entries.set token w es)))
      return w).run x =
    (do
      let w ← StoreM.extend (Objects.newObject [])
      let h ← StoreM.objects
      StoreM.setObjects (h.put b (.object (Entries.set token w es)))
      return w).run x :=
  rfl

theorem descend_follows (hl : Linked ρ s t t') (path : Text) (hv : Image ρ s v v')
    (token : Text) : Follows ρ s t t' (descend path v token) (descend path v' token) := by
  obtain ⟨hv, rfl⟩ := hv
  have hf := hl.within_find? hv
  cases v with
  | scalar a => exact .fail hl (.refl _)
  | ref a =>
    have hf : Within s (t.objects.cell a) := within_some.1 hf
    have hc : t'.objects.find? (.ref (ρ.cell a)) = some (rename ρ (t.objects.cell a)) :=
      congrArg some (hl.cell a hv)
    have hc₀ : t.objects.find? (.ref a) = some (t.objects.cell a) := rfl
    refine .objects ?_
    rw [rename_ref, hc, hc₀]
    cases hcell : t.objects.cell a with
    | array items =>
      rw [hcell] at hf
      simp only [rename_array, length_rename]
      refine .known hl (matches_index path items.length token false) fun hi => ?_
      obtain rfl := hi.eq
      exact .image hl ⟨within_item (within_array.1 hf) _, item_rename ρ items _⟩
    | object entries =>
      rw [hcell] at hf
      have hes : Image ρ s entries (rename ρ entries) := ⟨within_object.1 hf, rfl⟩
      have hg := Entries.within_get? hes.within token
      simp only [rename_object, Entries.get?_rename]
      cases hget : Entries.get? token entries with
      | some x =>
        rw [hget] at hg
        exact .pure hl (within_some.1 hg)
      | none =>
        refine .of_run (run_descend_missing a token entries t)
          (run_descend_missing (ρ.cell a) token (rename ρ entries) t') ?_
        refine .step (.newObject hl (within_nil s)) fun hl₁ hg₁ hw => .objects ?_
        rw [← hg₁.agrees.cell a hv]
        refine .step (putEntry_follows hl₁ (hg₁.le.1 hv) (hes.grows hg₁) token hw) ?_
        exact fun hl₂ hg₂ _ => .image hl₂ (hw.grows hg₂)

theorem assign_follows (hl : Linked ρ s t t') (path : Text) (hv : Image ρ s v v')
    (token : Text) (hw : Image ρ s w w') :
    Follows ρ s t t' (assign path v token w) (assign path v' token w') := by
  obtain ⟨hv, rfl⟩ := hv
  have hf := hl.within_find? hv
  cases v with
  | scalar a => exact .fail hl (.refl _)
  | ref a =>
    have hf : Within s (t.objects.cell a) := within_some.1 hf
    have hc : t'.objects.find? (.ref (ρ.cell a)) = some (rename ρ (t.objects.cell a)) :=
      congrArg some (hl.cell a hv)
    have hc₀ : t.objects.find? (.ref a) = some (t.objects.cell a) := rfl
    refine .objects ?_
    rw [rename_ref, hc, hc₀]
    cases hcell : t.objects.cell a with
    | object entries =>
      rw [hcell] at hf
      exact putEntry_follows hl hv ⟨within_object.1 hf, rfl⟩ token hw
    | array items =>
      rw [hcell] at hf
      have hitems := within_array.1 hf
      simp only [rename_array, length_rename]
      refine .known hl (matches_index path items.length token true) fun {_ i} hi => ?_
      obtain rfl := hi.eq
      have hset : Within s (if i = items.length then items ++ [w] else items.set i w) := by
        split
        · exact within_append.2 ⟨hitems, within_cons.2 ⟨hw.within, within_nil s⟩⟩
        · intro x hx
          rcases List.mem_or_eq_of_mem_set hx with hx | rfl
          · exact hitems x hx
          · exact hw.within
      have hput := Follows.put hl hv (within_array.2 hset)
      have himage : rename ρ (if i = items.length then items ++ [w] else items.set i w) =
          if i = items.length then rename ρ items ++ [w'] else (rename ρ items).set i w' := by
        rw [hw.eq]
        split
        · rw [rename_append, rename_cons, rename_nil]
        · rw [rename_list, List.map_set, rename_list]
      rw [rename_array, himage] at hput
      exact hput

theorem place_follows (hl : Linked ρ s t t') (path : Text) (hw : Image ρ s w w')
    (tokens : List Text) (hv : Image ρ s v v') :
    Follows ρ s t t' (place path w tokens v) (place path w' tokens v') := by
  induction tokens generalizing ρ s t t' v v' with
  | nil => exact .pure hl trivial
  | cons token tokens ih =>
    cases tokens with
    | nil => exact assign_follows hl path hv token hw
    | cons next tokens =>
      exact .step (descend_follows hl path hv token) fun hl₁ hg₁ hx => ih hl₁ (hw.grows hg₁) hx

theorem set_follows (hl : Linked ρ s t t') (hv : Image ρ s v v') (hw : Image ρ s w w') :
    Follows ρ s t t' (set v w) (set v' w') := by
  obtain ⟨hv, rfl⟩ := hv
  refine .objects (.known hl (pointer_rename hl.toMirrors hv) fun {_ path} hpath => ?_)
  obtain rfl := hpath.eq
  cases Pointer.tokens path with
  | error f => exact .fail (α := Unit) hl (.refl f)
  | ok tokens =>
    refine .passed ?_
    cases tokens with
    | nil =>
      refine .of_matches rfl rfl
        ⟨hl.toMirrors, hw.within, hw.eq⟩ ⟨.kept s (.refl _), .refl ρ s⟩ ⟨trivial, rfl⟩
    | cons token tokens =>
      have hrun (w : Value) (x : Store) :
          (do
            place path w (token :: tokens) (← MonadState.get).root
            StoreM.report ⟨.debug, .document,
              "Set " ++ path ++ " = " ++ (← StoreM.shown w), false⟩ : StoreM Unit).run x =
          (do
            place path w (token :: tokens) x.root
            StoreM.report ⟨.debug, .document,
              "Set " ++ path ++ " = " ++ (← StoreM.shown w), false⟩ : StoreM Unit).run x := rfl
      refine .of_run (hrun w t) (hrun w' t') ?_
      refine .step (place_follows hl path hw _ ⟨hl.root, hl.imageRoot⟩) fun hl₁ hg₁ _ => ?_
      have hw₁ := hw.grows hg₁
      obtain rfl := hw₁.eq
      exact .step (.shown hl₁ hw₁.within) fun hl₂ _ _ => .report hl₂ _ _

end Document
end
end NodeWalk
