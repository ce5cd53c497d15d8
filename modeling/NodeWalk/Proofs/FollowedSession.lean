import NodeWalk.Proofs.FollowedTurn

set_option autoImplicit false

/-!
# Sessions that follow each other

A session is a store and a record, and both are mirrored. A turn of an interpreter
with local behaviors keeps them so: it comes to mirrored evaluations, or it fails
alike on both sides.
-/
namespace NodeWalk

structure Session.Linked (ρ : Renaming) (s : Scope) (t t' : Session) : Prop
    extends NodeWalk.Linked ρ s t.store t'.store where
  nodes : Record.OfNodes t.record.entries
  record : Within s t.record
  imageRecord : t'.record = rename ρ t.record

namespace SessionM

def Follows {α : Type} [Carries α] (ρ : Renaming) (s : Scope) (t t' : Session)
    (m m' : SessionM α) : Prop :=
  ∃ ρ' s', Session.Linked ρ' s' (m.run t).2 (m'.run t').2 ∧
    Grows ρ s t.store ρ' s' (m.run t).2.store ∧ Matches ρ' s' (m.run t).1 (m'.run t').1

namespace Follows

variable {α β : Type} [Carries α] [Carries β] {ρ ρ' : Renaming} {s s' : Scope}
  {t t' u u' : Session} {m m' : SessionM α}

theorem pure (hl : Session.Linked ρ s t t') {a : α} (ha : Within s a) :
    Follows ρ s t t' (Pure.pure a) (Pure.pure (rename ρ a)) :=
  ⟨ρ, s, hl, .refl ρ s t.store, ha, rfl⟩

theorem bind {k k' : α → SessionM β} (hm : Follows ρ s t t' m m')
    (hk : ∀ ρ' s' u u' a, Session.Linked ρ' s' u u' → Grows ρ s t.store ρ' s' u.store →
      Within s' a → m.run t = (.ok a, u) → Follows ρ' s' u u' (k a) (k' (rename ρ' a))) :
    Follows ρ s t t' (m >>= k) (m' >>= k') := by
  obtain ⟨ρ', s', hl, hg, hr⟩ := hm
  cases h : m.run t with
  | mk r u =>
    cases h' : m'.run t' with
    | mk r' u' =>
      rw [h, h'] at hl hr
      rw [h] at hg
      obtain ⟨a, rfl, rfl, ha⟩ | ⟨f, f', rfl, rfl, hf⟩ := Matches.split hr
      · obtain ⟨ρ'', s'', hl', hg', hr'⟩ := hk ρ' s' u u' a hl hg ha h
        refine ⟨ρ'', s'', ?_⟩
        rw [run_bind_ok h, run_bind_ok h']
        exact ⟨hl', hg.trans hg', hr'⟩
      · refine ⟨ρ', s', ?_⟩
        rw [run_bind_error h, run_bind_error h']
        exact ⟨hl, hg, hf⟩

theorem onStore (hl : Session.Linked ρ s t t') {m m' : StoreM α}
    (hm : NodeWalk.Follows ρ s t.store t'.store m m') :
    Follows ρ s t t' (SessionM.onStore m) (SessionM.onStore m') := by
  obtain ⟨ρ', s', hl', hg, hr⟩ := hm
  refine ⟨ρ', s', ⟨hl', hl.nodes, Carries.mono hg.le hl.record, ?_⟩, hg, hr⟩
  exact hl.imageRecord.trans (Carries.congr hg.agrees.symm hl.record)

theorem record (hl : Session.Linked ρ s t t') (index : Nat) {result : Entries Value}
    (hr : Within s result) :
    Follows ρ s t t' (onRecord (Node.recorded index result))
      (onRecord (Node.recorded index (rename ρ result))) := by
  have himage : Node.recorded index (rename ρ result) t'.record =
      rename ρ (Node.recorded index result t.record) := by
    rw [hl.imageRecord, Node.recorded_rename]
  exact ⟨ρ, s, ⟨hl.toLinked, Node.ofNodes_recorded hl.nodes index result,
    Node.within_recorded hr hl.record index, himage⟩, .refl ρ s t.store, trivial, rfl⟩

end Follows
end SessionM

section

variable {ρ σ : Renaming} {s p : Scope} {t t' : Session}

theorem Node.Invocation.conduct_follows (hl : Session.Linked ρ s t t') {v : Invocation}
    (hb : v.behavior.behave.Local) (hv : Within s v) :
    SessionM.Follows ρ s t t' v.conduct (rename ρ v).conduct := by
  refine .bind (.onStore hl (v.answer_follows hl.toLinked hb hv))
    fun ρ₁ s₁ u u' output hl₁ _ ho _ => ?_
  refine .bind (.record hl₁ v.visit.index ho.1) fun ρ₂ s₂ w w' _ hl₂ hg₂ _ _ => ?_
  have ho₂ : Within s₂ output := Carries.mono hg₂.le ho
  have houtput : rename ρ₁ output = rename ρ₂ output := Carries.congr hg₂.agrees.symm ho
  rw [houtput]
  refine .bind (.onStore hl₂ (.bind (.plain hl₂.toLinked ho₂.2)
    fun _ _ _ _ _ hl₃ _ _ _ _ => .report hl₃ _ _)) fun ρ₃ s₃ x x' _ hl₃ hg₃ _ _ => ?_
  have houtput : rename ρ₂ output = rename ρ₃ output := Carries.congr hg₃.agrees.symm ho₂
  rw [houtput]
  exact .pure (a := (⟨v.visit.index, output⟩ : Evaluation)) hl₃ (Carries.mono hg₃.le ho₂)

namespace Interpreter

variable {i : Interpreter} {nodes : List Node} {steps : Nat} {current : Value}

theorem approach_follows (hl : Session.Linked ρ s t t')
    (hp : Objects.Source σ p ρ s t.store.objects t'.store.objects) (i : Interpreter) (steps : Nat)
    (hn : Within p nodes) (hc : Within s current) :
    SessionM.Follows ρ s t t' (i.approach nodes steps current)
      (i.approach (rename σ nodes) steps (rename ρ current)) := by
  have hb : Before σ p ρ s t.store t'.store t.record := ⟨hl.toLinked, hp, hl.nodes, hl.record⟩
  have hf := approachOn_follows hb i steps hn hc
  rw [← hl.imageRecord] at hf
  have hs := SessionM.Follows.onStore hl hf
  unfold SessionM.Follows at hs ⊢
  rw [run_approach, run_approach]
  exact hs

theorem turn_follows (hreg : i.registry.Local) (hl : Session.Linked ρ s t t')
    (hp : Objects.Source σ p ρ s t.store.objects t'.store.objects) (steps : Nat)
    (hn : Within p nodes) (hc : Within s current) :
    SessionM.Follows ρ s t t' (i.turn nodes steps current)
      (i.turn (rename σ nodes) steps (rename ρ current)) := by
  refine .bind (approach_follows hl hp i steps hn hc) fun ρ₁ s₁ u u' v hl₁ _ hv hrun => ?_
  exact v.conduct_follows hl₁ (local_of_finds hreg (finds_of_approach hrun)) hv

end Interpreter
end
end NodeWalk
