import NodeWalk.Proofs.LocalDocument
import NodeWalk.Proofs.MirroredArithmetic
import NodeWalk.Proofs.MirroredComparison
import NodeWalk.Run.BuiltIn

set_option autoImplicit false

/-!
# The built-in behaviors are local

Each is put together from steps that follow each other: a look at the parameters or
the control data, an operation, a read or a write of the document, and the output at
the end, a new object.
-/
namespace NodeWalk

variable {ρ : Renaming} {s : Scope} {t t' : Store}

namespace Call

variable {c c' : Call} {v v' next next' : Value}

theorem entry_follows (hl : Linked ρ s t t') (hv : Image ρ s v v') (key : Text) :
    Follows ρ s t t' (entry v key) (entry v' key) := by
  obtain ⟨hv, rfl⟩ := hv
  have hes := hl.within_entries? hv
  refine .objects ?_
  rw [hl.entries?_rename hv, hl.kind_rename hv]
  cases he : t.objects.entries? v with
  | none => exact .fail hl (.refl _)
  | some es =>
    rw [he] at hes
    exact .image hl ⟨Reply.within_entry (within_some.1 hes) key, Reply.entry_rename ρ es key⟩

theorem image_parameters (hc : Image ρ s c c') : Image ρ s c.parameters c'.parameters :=
  ⟨hc.within.1, congrArg Call.parameters hc.eq⟩

theorem image_flow (hc : Image ρ s c c') : Image ρ s c.flow c'.flow :=
  ⟨hc.within.2, congrArg Call.flow hc.eq⟩

theorem optional_follows (hl : Linked ρ s t t') (hc : Image ρ s c c') (key : Text) :
    Follows ρ s t t' (c.optional key) (c'.optional key) :=
  entry_follows hl (image_parameters hc) key

theorem successor_follows (hl : Linked ρ s t t') (hc : Image ρ s c c') (key : Text) :
    Follows ρ s t t' (c.successor key) (c'.successor key) :=
  entry_follows hl (image_flow hc) key

theorem required_follows (hl : Linked ρ s t t') (hc : Image ρ s c c') (key : Text) :
    Follows ρ s t t' (c.required key) (c'.required key) := by
  obtain ⟨hp, he⟩ := image_parameters hc
  have hes := hl.within_entries? hp
  refine .objects ?_
  rw [he, hl.entries?_rename hp, hl.kind_rename hp]
  cases hfound : t.objects.entries? c.parameters with
  | none => exact .fail hl (.refl _)
  | some es =>
    rw [hfound] at hes
    have hg := Entries.within_get? (within_some.1 hes) key
    simp only [rename_some, Entries.get?_rename]
    cases hget : Entries.get? key es with
    | none => exact .fail hl (.refl _)
    | some x =>
      rw [hget] at hg
      exact .pure hl (within_some.1 hg)

theorem store_required (c : Call) (key : Text) (t : Store) : ((c.required key).run t).2 = t := by
  unfold required
  rw [run_bind_ok (StoreM.run_objects t)]
  cases t.objects.entries? c.parameters with
  | none => rfl
  | some es =>
    dsimp only
    cases Entries.get? key es <;> rfl

theorem getDocument_follows (hl : Linked ρ s t t') (hc : Image ρ s c c') (hv : Image ρ s v v') :
    Follows ρ s t t' (c.getDocument v) (c'.getDocument v') := by
  have haccess : c'.access = c.access := by rw [hc.eq]; rfl
  unfold getDocument
  rw [haccess]
  split
  · have hget := Document.get_rename hl.toMirrors hl.root hv.within
    rw [← hl.imageRoot, ← hv.eq] at hget
    exact .of_run rfl rfl (.ofExcept hl hget)
  · exact .fail hl (.refl _)

theorem setDocument_follows (hl : Linked ρ s t t') (hc : Image ρ s c c') (hv : Image ρ s v v')
    {w w' : Value} (hw : Image ρ s w w') :
    Follows ρ s t t' (c.setDocument v w) (c'.setDocument v' w') := by
  have haccess : c'.access = c.access := by rw [hc.eq]; rfl
  unfold setDocument
  rw [haccess]
  split
  · exact Document.set_follows hl hv hw
  · exact .fail hl (.refl _)

theorem finish_follows (hl : Linked ρ s t t') {result result' : Entries Value}
    (hr : Image ρ s result result') (hn : Image ρ s next next') :
    Follows ρ s t t' (finish result next) (finish result' next') := by
  obtain ⟨hr, rfl⟩ := hr
  refine .step (.newObject hl hr) fun hl₁ hg₁ hv => ?_
  have hn₁ := hn.grows hg₁
  exact .image hl₁ ⟨⟨hv.within, hn₁.within⟩, congrArg₂ Reply.output hv.eq hn₁.eq⟩

end Call

namespace BuiltIn

open Call

variable {c c' : Call} {v v' : Value}

theorem putOut_follows (hl : Linked ρ s t t') (hc : Image ρ s c c') (hv : Image ρ s v v') :
    Follows ρ s t t' (putOut c v) (putOut c' v') := by
  refine .step (successor_follows hl hc "next") fun hl₁ hg₁ hn => finish_follows hl₁ ?_ hn
  have hv₁ := hv.grows hg₁
  exact ⟨within_cons.2 ⟨hv₁.within, within_nil _⟩,
    congrArg (fun w => [(Text.ofString "out", w)]) hv₁.eq⟩

def Mirroring (operation : Objects → Value → Value → Objects.Computed) : Prop :=
  ∀ {ρ s h h' v w}, Objects.Mirrors ρ s h h' → Within s v → Within s w →
    Objects.Computes ρ s h h' (operation h v w) (operation h' (rename ρ v) (rename ρ w))

theorem settle_follows (hl : Linked ρ s t t') (hc : Image ρ s c c') {r r' : Objects.Computed}
    (hr : Objects.Computes ρ s t.objects t'.objects r r') :
    Follows ρ s t t'
      (do
        let (v, h) ← StoreM.ofExcept r
        StoreM.setObjects h
        putOut c v)
      (do
        let (v, h) ← StoreM.ofExcept r'
        StoreM.setObjects h
        putOut c' v) := by
  have hrun (r : Objects.Computed) (c : Call) (x : Store) :
      (do
        let (v, h) ← StoreM.ofExcept r
        StoreM.setObjects h
        putOut c v).run x = (StoreM.settle r >>= putOut c).run x := by
    cases r <;> rfl
  refine .of_run (hrun r c t) (hrun r' c' t') ?_
  exact .step (.settle hl hr) fun hl₁ hg₁ hv => putOut_follows hl₁ (hc.grows hg₁) hv

theorem local_binary {operation : Objects → Value → Value → Objects.Computed}
    (ho : Mirroring operation) : Behavior.Local (binary operation) := by
  intro ρ s t t' c hl hc
  have hc : Image ρ s c (rename ρ c) := ⟨hc, rfl⟩
  refine .step (required_follows hl hc "a") fun hl₁ hg₁ ha => ?_
  have hc₁ := hc.grows hg₁
  refine .step (required_follows hl₁ hc₁ "b") fun hl₂ hg₂ hb => .objects ?_
  have ha₂ := ha.grows hg₂
  obtain ⟨ha₂, rfl⟩ := ha₂
  obtain ⟨hb, rfl⟩ := hb
  exact settle_follows hl₂ (hc₁.grows hg₂) (ho hl₂.toMirrors ha₂ hb)

theorem local_const : const.behave.Local := by
  intro ρ s t t' c hl hc
  have hc : Image ρ s c (rename ρ c) := ⟨hc, rfl⟩
  exact .step (optional_follows hl hc "value") fun hl₁ hg₁ hv =>
    putOut_follows hl₁ (hc.grows hg₁) hv

theorem local_double : double.behave.Local := by
  intro ρ s t t' c hl hc
  have hc : Image ρ s c (rename ρ c) := ⟨hc, rfl⟩
  refine .step (required_follows hl hc "x") fun hl₁ hg₁ hx => .objects ?_
  obtain ⟨hx, rfl⟩ := hx
  exact settle_follows hl₁ (hc.grows hg₁) (hl₁.mul_computes hx (within_int _ 2))

theorem comparison_rename {h h' : Objects} (hm : Objects.Mirrors ρ s h h') (hv : Within s v) :
    (∃ op, comparison h v = .ok op ∧ comparison h' (rename ρ v) = .ok op) ∨
      ∃ f f', comparison h v = .error f ∧ comparison h' (rename ρ v) = .error f' ∧ f.Alike f' := by
  cases v with
  | ref a =>
    refine .inr ⟨_, _, rfl, rfl, ?_⟩
    rw [hm.kind_rename hv]
    exact .refl _
  | scalar b =>
    have hother (hb : ∀ x, b ≠ .text x) : ∃ f f', comparison h (.scalar b) = .error f ∧
        comparison h' (rename ρ (.scalar b)) = .error f' ∧ f.Alike f' := by
      refine ⟨.unknownComparison (.scalar b), .unknownComparison (.scalar (rename ρ b)), ?_, ?_, ?_⟩
      · cases b <;> first | rfl | exact absurd rfl (hb _)
      · cases b <;> first | rfl | exact absurd rfl (hb _)
      · exact congrArg (fun a => Fault.unknownComparison (.scalar a))
          (Scalar.mapMark_mapMark (fun _ => 0) ρ.mark b)
    cases b with
    | text x =>
      have hx : rename ρ (Value.text x) = .text x := rfl
      have hsame : comparison h' (.text x) = comparison h (.text x) := by
        unfold comparison
        split <;> rfl
      rw [hx, hsame]
      cases comparison h (.text x) with
      | ok op => exact .inl ⟨op, rfl, rfl⟩
      | error f => exact .inr ⟨f, f, rfl, rfl, .refl f⟩
    | _ => exact .inr (hother (by simp))

theorem asked_rename (ρ : Renaming) (es : Option (Entries Value)) :
    ((rename ρ es).bind (Entries.get? "op")).getD (.text "eq") =
      rename ρ ((es.bind (Entries.get? "op")).getD (.text "eq")) := by
  cases es with
  | none => rfl
  | some es =>
    rw [rename_some, Option.bind_some, Option.bind_some, Entries.get?_rename]
    cases Entries.get? "op" es <;> rfl

theorem within_asked {es : Option (Entries Value)} (hes : Within s es) :
    Within s ((es.bind (Entries.get? "op")).getD (.text "eq")) := by
  cases es with
  | none => exact within_text s _
  | some es =>
    have hg := Entries.within_get? (within_some.1 hes) "op"
    rw [Option.bind_some]
    cases hget : Entries.get? "op" es with
    | none => exact within_text s _
    | some v => exact within_some.1 (hget ▸ hg)

theorem local_compare : compare.behave.Local := by
  intro ρ s t t' c hl hc
  have hc : Image ρ s c (rename ρ c) := ⟨hc, rfl⟩
  refine .objects ?_
  obtain ⟨hp, hpe⟩ := image_parameters hc
  rw [hpe, hl.entries?_rename hp, asked_rename]
  dsimp only
  obtain ⟨op, ho, ho'⟩ | ⟨f, f', ho, ho', hf⟩ := comparison_rename hl.toMirrors
    (within_asked (hl.within_entries? hp))
  · rw [ho, ho']
    refine .passed ?_
    -- The comparison is made of the objects there were at first; they are still the same.
    refine .bind (required_follows hl hc "a") fun ρ₁ s₁ u u' a hl₁ hg₁ ha hrun hrun' => ?_
    obtain rfl : t = u := by rw [← store_required c "a" t, hrun]
    obtain rfl : t' = u' := by rw [← store_required (rename ρ c) "a" t', hrun']
    have hc₁ := hc.grows hg₁
    refine .bind (required_follows hl₁ hc₁ "b") fun ρ₂ s₂ u u' b hl₂ hg₂ hb hrun hrun' => ?_
    obtain rfl : t = u := by rw [← store_required c "b" t, hrun]
    obtain rfl : t' = u' := by rw [← store_required (rename ρ c) "b" t', hrun']
    have ha₂ : Image ρ₂ s₂ a (rename ρ₁ a) := Image.grows ⟨ha, rfl⟩ hg₂
    rw [ha₂.eq, hl₂.compares_rename op ha₂.within hb]
    cases t.objects.compares op a b with
    | error f => exact .refused hl₂ (.refl f) _ _
    | ok answer =>
      exact .passed (putOut_follows hl₂ (hc₁.grows hg₂) ⟨within_bool s₂ answer, rfl⟩)
  · rw [ho, ho']
    exact .refused hl hf _ _

theorem local_branch : branch.behave.Local := by
  intro ρ s t t' c hl hc
  have hc : Image ρ s c (rename ρ c) := ⟨hc, rfl⟩
  refine .step (optional_follows hl hc "condition") fun hl₁ hg₁ hv => .objects ?_
  obtain ⟨hv, rfl⟩ := hv
  simp only [hl₁.isTrue_rename hv]
  refine .step (successor_follows hl₁ (hc.grows hg₁) _) fun hl₂ _ hn => ?_
  exact finish_follows hl₂ ⟨within_nil _, rfl⟩ hn

theorem local_noop : noop.behave.Local := by
  intro ρ s t t' c hl hc
  exact .step (successor_follows hl ⟨hc, rfl⟩ "next") fun hl₁ _ hn =>
    finish_follows hl₁ ⟨within_nil _, rfl⟩ hn

theorem local_worldGet : worldGet.behave.Local := by
  intro ρ s t t' c hl hc
  have hc : Image ρ s c (rename ρ c) := ⟨hc, rfl⟩
  refine .step (required_follows hl hc "path") fun hl₁ hg₁ hp => ?_
  have hc₁ := hc.grows hg₁
  exact .step (getDocument_follows hl₁ hc₁ hp) fun hl₂ hg₂ hv =>
    putOut_follows hl₂ (hc₁.grows hg₂) hv

theorem local_worldSet : worldSet.behave.Local := by
  intro ρ s t t' c hl hc
  have hc : Image ρ s c (rename ρ c) := ⟨hc, rfl⟩
  refine .step (required_follows hl hc "path") fun hl₁ hg₁ hp => ?_
  have hc₁ := hc.grows hg₁
  refine .step (optional_follows hl₁ hc₁ "value") fun hl₂ hg₂ hv => ?_
  have hc₂ := hc₁.grows hg₂
  refine .step (setDocument_follows hl₂ hc₂ (hp.grows hg₂) hv) fun hl₃ hg₃ _ => ?_
  exact .step (successor_follows hl₃ (hc₂.grows hg₃) "next") fun hl₄ _ hn =>
    finish_follows hl₄ ⟨within_nil _, rfl⟩ hn

end BuiltIn

theorem Registry.local_builtIn : Registry.builtIn.Local := by
  intro type b hb
  cases Registry.named_of_get? hb with
  | const => exact BuiltIn.local_const
  | add => exact BuiltIn.local_binary fun hm => hm.add_computes
  | sub => exact BuiltIn.local_binary fun hm => hm.sub_computes
  | mul => exact BuiltIn.local_binary fun hm => hm.mul_computes
  | double => exact BuiltIn.local_double
  | compare => exact BuiltIn.local_compare
  | branch => exact BuiltIn.local_branch
  | noop => exact BuiltIn.local_noop
  | worldGet => exact BuiltIn.local_worldGet
  | worldSet => exact BuiltIn.local_worldSet

end NodeWalk
