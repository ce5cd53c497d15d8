import NodeWalk.Proofs.FailedRun
import NodeWalk.Proofs.Received

set_option autoImplicit false

/-!
# Where the faults of a run come from

A run over nodes that were read fails with a fault that has a name, or it meets an integer that
is too long to be written, or the behavior of a node raises what it likes. All that is done
around the call of a behavior raises nothing else.
-/
namespace NodeWalk

def Fault.OfRun (f : Fault) : Prop := f.name?.isSome = true ∨ f = .integerTooLong

theorem Fault.ofRun_settled {f : Fault} (hf : f.name?.isSome = true) : f.settled.OfRun := by
  unfold settled
  split
  · exact .inl hf
  · exact .inr rfl

section FailsOnly

variable {σ α β : Type} {P : Fault → Prop}

def FailsOnly (P : Fault → Prop) (m : ExceptT Fault (StateM σ) α) : Prop :=
  ∀ s f t, m.run s = (.error f, t) → P f

namespace FailsOnly

theorem pure (a : α) : FailsOnly P (Pure.pure a : ExceptT Fault (StateM σ) α) := by
  intro s f t h
  cases h

theorem throw {f : Fault} (hf : P f) :
    FailsOnly P (MonadExcept.throw f : ExceptT Fault (StateM σ) α) := by
  intro s g t h
  cases h
  exact hf

theorem bind {m : ExceptT Fault (StateM σ) α} {k : α → ExceptT Fault (StateM σ) β}
    (hm : FailsOnly P m) (hk : ∀ a, FailsOnly P (k a)) : FailsOnly P (m >>= k) := by
  intro s f t h
  obtain hfirst | ⟨a, u, -, hbehind⟩ := error_of_bind h
  · exact hm s f t hfirst
  · exact hk a u f t hbehind

/-- Whatever is done about a fault before it is thrown again fails like the action itself. -/
theorem rethrown {m : ExceptT Fault (StateM σ) α} {note : Fault → ExceptT Fault (StateM σ) Unit}
    (hm : FailsOnly P m) (hnote : ∀ f, FailsOnly P (note f)) :
    FailsOnly P (tryCatch m fun f => do note f; MonadExcept.throw f) := by
  intro s f t h
  rw [run_tryCatch] at h
  cases hr : m.run s with
  | mk result u =>
    rw [hr] at h
    cases result with
    | ok a => cases h
    | error g => exact ((hnote g).bind fun _ => .throw (hm s g u hr)) u f t h

theorem onStore {m : StoreM α} (hm : FailsOnly P m) : FailsOnly P (SessionM.onStore m) := by
  intro s f t h
  rw [SessionM.run_onStore] at h
  obtain ⟨hf, -⟩ := Prod.mk.inj h
  exact hm s.store f (m.run s.store).2 (Prod.ext hf rfl)

theorem objects : FailsOnly P StoreM.objects := by
  intro s f t h
  cases h

theorem report (n : Notice) : FailsOnly P (StoreM.report n) := by
  intro s f t h
  cases h

theorem extend (k : Objects → α × Objects) : FailsOnly P (StoreM.extend k) := by
  intro s f t h
  cases h

theorem fail {f : Fault} (hf : f.name?.isSome = true) :
    FailsOnly Fault.OfRun (StoreM.fail f : StoreM α) :=
  .throw (Fault.ofRun_settled hf)

theorem plain (v : Value) : FailsOnly Fault.OfRun (StoreM.plain v) := by
  intro s f t h
  rw [StoreM.run_plain] at h
  cases hv : s.objects.plain? v with
  | some text => rw [hv] at h; cases h
  | none =>
    rw [hv] at h
    cases h
    exact .inr rfl

end FailsOnly
end FailsOnly

namespace Node

namespace Visit

theorem failsOnly_behavior (registry : Registry) (v : Visit) :
    FailsOnly Fault.OfRun (v.behavior registry) := by
  unfold behavior
  split
  · exact .pure _
  · exact (FailsOnly.report _).bind fun _ => .fail rfl

theorem failsOnly_resolve {p : Parameter} (hp : p.Read) (r : Record) (name : Text) :
    FailsOnly Fault.OfRun (p.resolve r name) := by
  cases hp with
  | literal v =>
    intro s f t h
    rw [Parameter.run_resolve_literal] at h
    cases h
  | reference _ x =>
    intro s f t h
    rw [Parameter.run_resolve_reference] at h
    split at h
    · cases h
    · obtain ⟨hf, -⟩ := Prod.mk.inj h
      exact Except.error.inj hf ▸ Fault.ofRun_settled rfl

open Parameter in
theorem failsOnly_resolveEach {ps : List (Text × Parameter)} (hps : ∀ p ∈ ps, p.2.Read)
    (r : Record) : FailsOnly Fault.OfRun (resolveEach (resolve r) ps) := by
  induction ps with
  | nil => exact .pure _
  | cons p ps ih =>
    obtain ⟨hp, hothers⟩ := List.forall_mem_cons.1 hps
    exact (failsOnly_resolve hp r p.1).bind fun _ => (ih hothers).bind fun _ => .pure _

theorem failsOnly_parameters {n : Node} (hn : n.Read) (v : Visit) (r : Record) :
    FailsOnly Fault.OfRun (v.parameters n r) := by
  refine (failsOnly_resolveEach hn.parameters r).rethrown fun f => ?_
  unfold reportMissing
  split
  · exact .report _
  · exact .pure _

theorem failsOnly_call {n : Node} (hn : n.Read) (access : Access) (ps : Entries Value) :
    FailsOnly Fault.OfRun (call n access ps) := by
  obtain ⟨entries, hflow⟩ := hn.flow
  unfold call
  rw [hflow]
  exact (FailsOnly.extend _).bind fun _ => (FailsOnly.pure _).bind fun _ =>
    (FailsOnly.extend _).bind fun _ => .pure _

end Visit

theorem failsOnly_prepare {n : Node} (hn : n.Read) (registry : Registry) (access : Access)
    (r : Record) (index : Nat) : FailsOnly Fault.OfRun (prepare registry access r index n) := by
  obtain ⟨type, htype⟩ := hn.type
  unfold prepare
  rw [htype]
  refine FailsOnly.objects.bind fun _ => (FailsOnly.pure type).bind fun type => ?_
  refine (Visit.failsOnly_behavior registry _).bind fun _ => ?_
  refine (Visit.failsOnly_parameters hn _ r).bind fun ps => ?_
  exact ((Visit.failsOnly_call hn access ps).rethrown fun _ => .report _).bind fun _ => .pure _

end Node

namespace Interpreter

variable {i : Interpreter} {nodes : List Node} {steps turns k : Nat} {entry current : Value}
  {s t : Session} {f : Fault}

theorem failsOnly_checkCeiling (i : Interpreter) (steps : Nat) (current : Value) :
    FailsOnly Fault.OfRun (i.checkCeiling steps current) := by
  unfold checkCeiling
  split
  · exact .pure _
  · split
    · exact (FailsOnly.plain _).bind fun _ => (FailsOnly.plain _).bind fun _ =>
        (FailsOnly.report _).bind fun _ => .fail rfl
    · exact .pure _

theorem failsOnly_nodeAt (nodes : List Node) (index : Value) :
    FailsOnly Fault.OfRun (nodeAt nodes index) := by
  unfold nodeAt
  split
  · exact .pure _
  · exact FailsOnly.objects.bind fun _ => .fail rfl

theorem ofRun_of_approach (hnodes : ∀ n ∈ nodes, n.Read)
    (h : (i.approach nodes steps current).run s = (.error f, t)) : f.OfRun := by
  obtain hceiling | ⟨-, u, -, h⟩ := error_of_bind h
  · exact (failsOnly_checkCeiling i steps current).onStore s f t hceiling
  obtain hfind | ⟨p, w, hfound, h⟩ := error_of_bind h
  · exact (failsOnly_nodeAt nodes current).onStore u f t hfind
  -- The node was found among those that were read.
  have hread : p.2.Read := by
    rw [SessionM.run_onStore, run_nodeAt] at hfound
    cases hp : find? nodes current with
    | none => rw [hp] at hfound; cases hfound
    | some q =>
      rw [hp] at hfound
      cases hfound
      exact hnodes _ (List.mem_of_getElem? (find?_eq_some_iff.1 hp).2)
  obtain hget | ⟨x, y, -, h⟩ := error_of_bind h
  · cases hget
  · exact (Node.failsOnly_prepare hread i.registry i.access x.record p.1).onStore y f t h

theorem ofRun_of_start (h : (start entry (.list (nodes.map Node.source))).run s = (.error f, t)) :
    f.OfRun := by
  rw [run_start, Node.parseAll_source] at h
  dsimp only at h
  split at h
  · cases h
    exact .inr rfl
  · split at h
    · cases h
    · cases h
      exact Fault.ofRun_settled rfl

inductive Raises (i : Interpreter) (entry : Value) (submitted : Submission) (s : Session) :
    Fault → Prop where
  | behavior {nodes : List Node} {s₁ t u : Session} {es : List Node.Evaluation} {c : Value}
      {v : Node.Invocation} {f : Fault} {w : Store}
      (start : (start entry submitted).run s = (.ok nodes, s₁))
      (course : Course i nodes entry s₁ es c t)
      (approach : (i.approach nodes es.length c).run t = (.ok v, u))
      (behaves : (v.behavior.behave v.call).run u.store = (.error f, w)) :
      Raises i entry submitted s f

theorem ofRun_or_raises (hnodes : ∀ n ∈ nodes, n.Read)
    (h : i.run turns entry (.list (nodes.map Node.source)) s = (.failed k f, t)) :
    f.OfRun ∨ Raises i entry (.list (nodes.map Node.source)) s f := by
  cases hs : (start entry (.list (nodes.map Node.source))).run s with
  | mk started s₁ =>
    cases started with
    | error g =>
      rw [run_of_start_error hs] at h
      cases h
      exact .inl (ofRun_of_start hs)
    | ok ns =>
      obtain rfl : ns = nodes := by
        have hparsed := (start_ok hs).1
        rw [Node.parseAll_source] at hparsed
        exact (Except.ok.inj hparsed).symm
      obtain ⟨w, hw, -⟩ := stops_of_run hs h
      cases hw with
      | failed course _ _ turn =>
        cases failure_of_turn turn with
        | approach _ _ uncalled =>
          exact .inl (ofRun_of_approach hnodes (uncalled i.registry fun _ => rfl))
        | raised approach behaves _ _ => exact .inr (.behavior hs course approach behaves)
        | unusable _ _ _ _ _ => exact .inl (.inl rfl)
        | unwritable _ _ _ _ _ _ => exact .inl (.inr rfl)

end Interpreter
end NodeWalk
