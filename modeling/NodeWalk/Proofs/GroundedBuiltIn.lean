import NodeWalk.Proofs.GroundedWrite

set_option autoImplicit false

/-!
# Behaviors that put out what ends

Given grounded parameters over a grounded document, each of the built-in behaviors puts
out grounded values: scalars, new arrays of items that it was given, or what the document
has at a path.
-/
namespace NodeWalk

theorem Objects.Computed.Ends.grounded {h g : Objects} {a b v : Value} {r : Computed}
    (hr : r.Ends h a b) (ha : h.Grounded a) (hb : h.Grounded b) (hok : r = .ok (v, g)) :
    g.Grounded v := by
  cases hr with
  | fault due => cases hok
  | scalar s =>
    cases hok
    exact grounded_scalar _ _
  | number x =>
    cases hok
    exact grounded_scalar _ _
  | array given =>
    cases hok
    refine grounded_newArray fun x hx => ?_
    obtain ⟨xs, hxs | hxs, hmem⟩ := given x hx
    · exact (hereditary_grounded h).of_item ha hxs hmem
    · exact (hereditary_grounded h).of_item hb hxs hmem

theorem Document.grounded_of_get {h : Objects} {root path x : Value} (hroot : h.Grounded root)
    (hget : get h root path = .ok x) : h.Grounded x := by
  obtain ⟨text, -, htext⟩ := bind_ok_iff.1 hget
  obtain ⟨tokens, -, hwalk⟩ := bind_ok_iff.1 htext
  exact hroot.below (refs_of_walk hwalk)

def Reply.Grounded (r : Reply) (h : Objects) : Prop :=
  ∀ o, r.accept h = some o → ∀ e ∈ o.result, h.Grounded e.2

namespace Call

variable {c : Call} {key : Text} {v next : Value} {result : Entries Value} {reply : Reply}
  {s t : Store}

def Grounded (c : Call) (h : Objects) : Prop :=
  ∀ ps, h.entries? c.parameters = some ps → ∀ e ∈ ps, h.Grounded e.2

theorem Grounded.get?_getD {h : Objects} {ps : Entries Value} (hc : c.Grounded h)
    (hps : h.entries? c.parameters = some ps) (key : Text) :
    h.Grounded ((Entries.get? key ps).getD .null) := by
  cases hv : Entries.get? key ps with
  | none => exact Objects.grounded_scalar h _
  | some v => exact hc ps hps _ (Entries.mem_of_get? hv)

theorem Grounded.required (hc : c.Grounded s.objects)
    (h : (c.required key).run s = (.ok v, t)) : t = s ∧ s.objects.Grounded v := by
  obtain ⟨rfl, ps, hps, hv⟩ := required_ok h
  exact ⟨rfl, hc ps hps _ (Entries.mem_of_get? hv)⟩

theorem Grounded.optional (hc : c.Grounded s.objects)
    (h : (c.optional key).run s = (.ok v, t)) : t = s ∧ s.objects.Grounded v := by
  obtain ⟨rfl, hv⟩ := optional_ok h
  cases hps : t.objects.entries? c.parameters with
  | none =>
    unfold Call.optional entry at h
    rw [run_bind_ok (StoreM.run_objects t), hps] at h
    cases h
  | some ps =>
    rw [hv ps hps]
    exact ⟨rfl, hc.get?_getD hps key⟩

theorem grounded_finish (hresult : ∀ e ∈ result, s.objects.Grounded e.2)
    (h : (finish result next).run s = (.ok reply, t)) : reply.Grounded t.objects := by
  unfold finish at h
  rw [run_bind_ok (StoreM.run_extend _ s)] at h
  cases h
  have hk := Objects.kept_newObject result s.objects
  intro o ho e he
  rw [Reply.accept, Objects.entries?_newObject] at ho
  cases ho
  exact (hresult e he).kept hk

end Call

namespace BuiltIn

open Call

variable {c : Call} {v : Value} {reply : Reply} {s t : Store}

theorem grounded_putOut (hv : s.objects.Grounded v) (h : (putOut c v).run s = (.ok reply, t)) :
    reply.Grounded t.objects := by
  obtain ⟨next, u, hnext, hfinish⟩ := ok_of_bind h
  have hk := keeping_successor c "next" s
  rw [hnext] at hk
  exact grounded_finish (List.forall_mem_singleton.2 (hv.kept hk.toKept)) hfinish

def Grounding (b : Behavior) : Prop :=
  ∀ c s reply t, s.objects.Grounded s.root → c.Grounded s.objects →
    (b c).run s = (.ok reply, t) → reply.Grounded t.objects

theorem grounded_computed {operation : Objects → Objects.Computed} {a b : Value}
    (ho : (operation s.objects).Ends s.objects a b) (ha : s.objects.Grounded a)
    (hb : s.objects.Grounded b)
    (h : (do
      let (v, h) ← StoreM.ofExcept (operation (← StoreM.objects))
      StoreM.setObjects h
      putOut c v : StoreM Reply).run s = (.ok reply, t)) : reply.Grounded t.objects := by
  rw [run_computed] at h
  cases hr : operation s.objects with
  | error f =>
    rw [hr] at h
    cases h
  | ok r =>
    rw [hr] at h
    exact grounded_putOut (s := s.withObjects r.2) (ho.grounded ha hb hr) h

theorem grounding_binary {operation : Objects → Value → Value → Objects.Computed}
    (ho : ∀ h v w, (operation h v w).Ends h v w) : Grounding (binary operation) := by
  intro c s reply t _ hc h
  obtain ⟨a, s₁, ha, h₁⟩ := ok_of_bind h
  obtain ⟨rfl, hga⟩ := hc.required ha
  obtain ⟨b, s₂, hb, h₂⟩ := ok_of_bind h₁
  obtain ⟨rfl, hgb⟩ := hc.required hb
  exact grounded_computed (ho _ a b) hga hgb h₂

theorem grounding_const : Grounding const.behave := by
  intro c s reply t _ hc h
  obtain ⟨v, s₁, hv, h₁⟩ := ok_of_bind h
  obtain ⟨rfl, hgv⟩ := hc.optional hv
  exact grounded_putOut hgv h₁

theorem grounding_double : Grounding double.behave := by
  intro c s reply t _ hc h
  obtain ⟨x, s₁, hx, h₁⟩ := ok_of_bind h
  obtain ⟨rfl, hgx⟩ := hc.required hx
  exact grounded_computed (Objects.ends_mul _ x (.int 2)) hgx (Objects.grounded_scalar _ _) h₁

theorem grounding_compare : Grounding compare.behave := by
  intro c s reply t _ _ h
  obtain ⟨_, _, _, h⟩ := ok_of_bind h
  obtain ⟨_, _, _, h⟩ := ok_of_bind h
  obtain ⟨_, _, _, h⟩ := ok_of_bind h
  obtain ⟨_, _, _, h⟩ := ok_of_bind h
  obtain ⟨_, _, _, h⟩ := ok_of_bind h
  exact grounded_putOut (Objects.grounded_scalar _ _) h

theorem grounding_branch : Grounding branch.behave := by
  intro c s reply t _ _ h
  obtain ⟨_, _, _, h⟩ := ok_of_bind h
  obtain ⟨_, _, _, h⟩ := ok_of_bind h
  obtain ⟨_, _, _, h⟩ := ok_of_bind h
  exact grounded_finish (List.forall_mem_nil _) h

theorem grounding_noop : Grounding noop.behave := by
  intro c s reply t _ _ h
  obtain ⟨_, _, _, h⟩ := ok_of_bind h
  exact grounded_finish (List.forall_mem_nil _) h

theorem grounding_worldGet : Grounding worldGet.behave := by
  intro c s reply t hroot hc h
  obtain ⟨path, s₁, hpath, h₁⟩ := ok_of_bind h
  obtain ⟨rfl, -⟩ := hc.required hpath
  obtain ⟨x, s₂, hx, h₂⟩ := ok_of_bind h₁
  unfold getDocument at hx
  split at hx
  · rw [run_bind_ok (StoreM.run_get s₁)] at hx
    cases hget : Document.get s₁.objects s₁.root path with
    | error f => rw [hget] at hx; cases hx
    | ok y =>
      rw [hget] at hx
      cases hx
      exact grounded_putOut (Document.grounded_of_get hroot hget) h₂
  · cases hx

theorem grounding_worldSet : Grounding worldSet.behave := by
  intro c s reply t _ _ h
  obtain ⟨_, _, _, h⟩ := ok_of_bind h
  obtain ⟨_, _, _, h⟩ := ok_of_bind h
  obtain ⟨_, _, _, h⟩ := ok_of_bind h
  obtain ⟨_, _, _, h⟩ := ok_of_bind h
  exact grounded_finish (List.forall_mem_nil _) h

theorem grounding_builtIn {type : Text} {b : Registered}
    (h : Registry.builtIn.get? type = some b) : Grounding b.behave := by
  cases Registry.named_of_get? h with
  | const => exact grounding_const
  | add => exact grounding_binary Objects.ends_add
  | sub => exact grounding_binary Objects.ends_sub
  | mul => exact grounding_binary Objects.ends_mul
  | double => exact grounding_double
  | compare => exact grounding_compare
  | branch => exact grounding_branch
  | noop => exact grounding_noop
  | worldGet => exact grounding_worldGet
  | worldSet => exact grounding_worldSet

end BuiltIn
end NodeWalk
