import NodeWalk.Proofs.Course
import NodeWalk.Proofs.Start
import NodeWalk.Proofs.Turn

set_option autoImplicit false

/-!
# Failed runs

What a failed run leaves. A run that fails at its start leaves an empty record and
the document as it was. A run that fails later does so in the turn after a course:
before the behavior of the node is called, by the behavior itself, or after it. Only
a successor that cannot be written fails after the recording; every other failure
leaves the record as the course left it.
-/
namespace NodeWalk

/-- Registries of the same node types, whatever their behaviors are. -/
def Registry.SameTypes (r r' : Registry) : Prop :=
  ∀ type, (r.get? type).isSome = (r'.get? type).isSome

theorem Registry.SameTypes.symm {r r' : Registry} (h : r.SameTypes r') : r'.SameTypes r :=
  fun type => (h type).symm

structure Store.SameDocument (s t : Store) : Prop where
  objects : t.objects = s.objects
  root : t.root = s.root

structure Session.Untouched (s t : Session) : Prop where
  record : t.record = .empty
  document : s.store.SameDocument t.store

section FailsLike

variable {σ α α' β : Type}

/-- Wherever the first action fails, the second fails in the same way. -/
def FailsLike (m : ExceptT Fault (StateM σ) α) (m' : ExceptT Fault (StateM σ) α') : Prop :=
  ∀ s f t, m.run s = (.error f, t) → m'.run s = (.error f, t)

theorem FailsLike.pure {a : α} {a' : α'} :
    FailsLike (Pure.pure a : ExceptT Fault (StateM σ) α) (Pure.pure a') := by
  intro s f t h
  cases h

theorem FailsLike.bind (m : ExceptT Fault (StateM σ) β) {k : β → ExceptT Fault (StateM σ) α}
    {k' : β → ExceptT Fault (StateM σ) α'} (h : ∀ b, FailsLike (k b) (k' b)) :
    FailsLike (m >>= k) (m >>= k') := by
  intro s f t hf
  obtain hm | ⟨b, u, hm, hk⟩ := error_of_bind hf
  · exact run_bind_error hm
  · rw [run_bind_ok hm]
    exact h b u f t hk

theorem FailsLike.onStore {m : StoreM α} {m' : StoreM α'} (h : FailsLike m m') :
    FailsLike (SessionM.onStore m) (SessionM.onStore m') := by
  intro s f t hf
  rw [SessionM.run_onStore] at hf ⊢
  cases hm : m.run s.store with
  | mk result u =>
    rw [hm] at hf
    cases hf
    rw [h _ _ _ hm]

end FailsLike

namespace Node

namespace Visit

variable {registry registry' : Registry} {v : Visit} {s : Store}

theorem Finds.sameTypes (h : registry.SameTypes registry') {b : Registered}
    (hb : v.Finds registry b) : ∃ b', v.Finds registry' b' := by
  obtain ⟨p, hp, hb⟩ := hb
  have hs := h (p.1 ++ "." ++ p.2)
  rw [hb, Option.isSome_some] at hs
  obtain ⟨b', hb'⟩ := Option.isSome_iff_exists.1 hs.symm
  exact ⟨b', p, hp, hb'⟩

/-- Which behavior is found matters only to what is done after the look-up. -/
theorem behavior_failsLike {α α' : Type} (h : registry.SameTypes registry') (v : Visit)
    {k : Registered → StoreM α} {k' : Registered → StoreM α'}
    (hk : ∀ b b', FailsLike (k b) (k' b')) :
    FailsLike (v.behavior registry >>= k) (v.behavior registry' >>= k') := by
  intro s f t hf
  obtain ⟨b, hb, hr⟩ | ⟨hno, hr⟩ := run_behavior registry v s
  · obtain ⟨b', -, hr'⟩ | ⟨hno', -⟩ := run_behavior registry' v s
    · rw [run_bind_ok hr] at hf
      rw [run_bind_ok hr']
      exact hk b b' s f t hf
    · obtain ⟨b', hb'⟩ := hb.sameTypes h
      exact absurd hb' (hno' b')
  · obtain ⟨b', hb', -⟩ | ⟨-, hr'⟩ := run_behavior registry' v s
    · obtain ⟨b, hb⟩ := hb'.sameTypes h.symm
      exact absurd hb (hno b)
    · rw [run_bind_error hr] at hf
      rw [run_bind_error hr']
      obtain ⟨he, ht⟩ := Prod.mk.inj hf
      rw [Except.error.inj he, ht]

end Visit

theorem prepare_failsLike {registry registry' : Registry} (h : registry.SameTypes registry')
    (access : Access) (r : Record) (index : Nat) (n : Node) :
    FailsLike (prepare registry access r index n) (prepare registry' access r index n) := by
  refine .bind _ fun _ => .bind _ fun type => ?_
  exact Visit.behavior_failsLike h _ fun b b' => .bind _ fun _ => .bind _ fun _ => .pure

end Node

namespace Interpreter

def withRegistry (i : Interpreter) (registry : Registry) : Interpreter :=
  { i with registry := registry }

variable {i : Interpreter} {nodes : List Node} {steps : Nat} {current : Value} {s t : Session}
  {f : Fault}

theorem approach_failsLike {registry : Registry} (h : i.registry.SameTypes registry) :
    FailsLike (i.approach nodes steps current)
      ((i.withRegistry registry).approach nodes steps current) := by
  exact .bind _ fun _ => .bind _ fun p => .bind _ fun s =>
    (Node.prepare_failsLike h i.access s.record p.1 p.2).onStore

/-- How the turn after a course fails: the fault, and the session that is left of
`s`, the one that the course led to. -/
inductive Failure (i : Interpreter) (nodes : List Node) (steps : Nat) (current : Value)
    (s : Session) : Fault → Session → Prop where
  /-- Before the behavior is called. Whatever behaviors the registry held, the turn
  would have failed like this. -/
  | approach {f : Fault} {t : Session} (record : t.record = s.record)
      (document : s.store.Keeps t.store)
      (uncalled : ∀ registry, i.registry.SameTypes registry →
        ((i.withRegistry registry).approach nodes steps current).run s = (.error f, t)) :
      Failure i nodes steps current s f t
  /-- The behavior raises a fault. -/
  | raised {f : Fault} {v : Node.Invocation} {u t : Session} {w : Store}
      (approach : (i.approach nodes steps current).run s = (.ok v, u))
      (behaves : (v.behavior.behave v.call).run u.store = (.error f, w))
      (record : t.record = s.record) (document : w.SameDocument t.store) :
      Failure i nodes steps current s f t
  /-- What the behavior returns is no output. -/
  | unusable {v : Node.Invocation} {u t : Session} {w : Store} {reply : Reply}
      (approach : (i.approach nodes steps current).run s = (.ok v, u))
      (behaves : (v.behavior.behave v.call).run u.store = (.ok reply, w))
      (unusable : reply.accept w.objects = none) (record : t.record = s.record)
      (document : w.SameDocument t.store) :
      Failure i nodes steps current s (.invalidOutput v.visit.type (reply.kind w.objects)) t
  /-- The evaluation is complete and all of it is recorded, but its successor cannot
  be written. -/
  | unwritable {v : Node.Invocation} {u t : Session} {w : Store} {reply : Reply} {output : Output}
      (approach : (i.approach nodes steps current).run s = (.ok v, u))
      (behaves : (v.behavior.behave v.call).run u.store = (.ok reply, w))
      (usable : reply.accept w.objects = some output)
      (next : w.objects.plain? output.next = none)
      (record : t.record = Node.recorded v.visit.index output.result s.record)
      (document : w.SameDocument t.store) :
      Failure i nodes steps current s .integerTooLong t

theorem failure_of_turn (h : (i.turn nodes steps current).run s = (.error f, t)) :
    Failure i nodes steps current s f t := by
  rw [run_turn] at h
  cases ha : (i.approach nodes steps current).run s with
  | mk approached u =>
    obtain ⟨hrecord, hkeeps⟩ := approach_keeps ha
    rw [ha] at h
    cases approached with
    | error g =>
      cases h
      exact .approach hrecord hkeeps fun registry hs => approach_failsLike hs s f t ha
    | ok v =>
      dsimp only at h
      rw [Node.Invocation.run_conduct, Node.Invocation.run_answer] at h
      cases hb : (v.behavior.behave v.call).run u.store with
      | mk result w =>
        rw [hb] at h
        cases result with
        | error g =>
          cases h
          exact .raised ha hb hrecord ⟨rfl, rfl⟩
        | ok reply =>
          dsimp only at h
          cases ho : reply.accept w.objects with
          | none =>
            rw [ho] at h
            cases h
            exact .unusable ha hb ho hrecord ⟨rfl, rfl⟩
          | some output =>
            rw [ho] at h
            dsimp only at h
            cases hn : w.objects.plain? output.next with
            | some next => rw [hn] at h; cases h
            | none =>
              rw [hn] at h
              cases h
              exact .unwritable ha hb ho hn (by rw [hrecord]) ⟨rfl, rfl⟩

/-- What a failed run leaves. Nodes or an entry that are not acceptable fail at the
start, before the interpreter and its behaviors come in. Any other failure follows
on a number of completed evaluations and leaves what they left, but for what the
behavior of the failing turn did to the document itself. Only where the successor that
it names is an integer too long to be written, the sockets of the failing turn are recorded
as well: the turn fails when it tells of its end. -/
theorem run_failed_leaves (entry : Value) (submitted : Submission) (s : Session) :
    (¬ submitted.Acceptable s.store.objects entry → ∃ f t, s.Untouched t ∧
      ∀ (i : Interpreter) turns, i.run turns entry submitted s = (.failed 0 f, t)) ∧
    ∀ (i : Interpreter) turns k f t, i.run turns entry submitted s = (.failed k f, t) →
      (k = 0 ∧ s.Untouched t ∧
        ∀ (i' : Interpreter) turns', i'.run turns' entry submitted s = (.failed 0 f, t)) ∨
      ∃ nodes s₁ es c u, (start entry submitted).run s = (.ok nodes, s₁) ∧
        Course i nodes entry s₁ es c u ∧ es.length = k ∧
        i.run k entry submitted s = (.unfinished k c, u) ∧ Failure i nodes k c u f t := by
  have failing {f : Fault} {t : Session} (h : (start entry submitted).run s = (.error f, t)) :
      s.Untouched t ∧ ∀ (i : Interpreter) turns,
        i.run turns entry submitted s = (.failed 0 f, t) := by
    obtain ⟨hrecord, hobjects, hroot⟩ := start_error h
    exact ⟨⟨hrecord, hobjects, hroot⟩, fun i turns => run_of_start_error h turns⟩
  cases hs : (start entry submitted).run s with
  | mk started s₁ =>
    cases started with
    | error g =>
      obtain ⟨hu, hr⟩ := failing hs
      refine ⟨fun _ => ⟨g, s₁, hu, hr⟩, fun i turns k f t h => .inl ?_⟩
      rw [hr i turns] at h
      cases h
      exact ⟨rfl, hu, hr⟩
    | ok nodes =>
      refine ⟨fun hno => absurd (acceptable_of_start hs) hno, fun i turns k f t h => .inr ?_⟩
      obtain ⟨w, hw, hc⟩ := stops_of_run hs h
      cases hc
      generalize he : Ending.failed k f = e at hw
      cases hw with
      | halted _ _ => cases he
      | unfinished _ _ _ => cases he
      | @failed es c u _ _ course goes _ turn =>
        cases he
        have hrun := run_of_stops hs (Stops.unfinished course goes rfl)
        exact ⟨nodes, s₁, es, c, u, rfl, course, rfl, hrun, failure_of_turn turn⟩

end Interpreter
end NodeWalk
