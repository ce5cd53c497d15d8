import NodeWalk.Proofs.Actions
import NodeWalk.Proofs.Kept

set_option autoImplicit false

/-!
# One turn

A turn approaches a node and then conducts the evaluation. The approach checks,
looks up and copies, but writes to nothing that was there before. Conducting is
the call of the behavior, the recording, and the notice of the successor; the
recording is done only after an output, and the notice only after the recording.
-/
namespace NodeWalk

structure Store.Keeps (s t : Store) : Prop extends s.objects.Kept t.objects where
  root : t.root = s.root

theorem Store.Keeps.refl (s : Store) : s.Keeps s := ⟨.refl _, rfl⟩

theorem Store.Keeps.trans {s t u : Store} (h : s.Keeps t) (h' : t.Keeps u) : s.Keeps u :=
  ⟨h.toKept.trans h'.toKept, h'.root.trans h.root⟩

namespace StoreM

variable {α β : Type}

def Keeping (m : StoreM α) : Prop := ∀ s : Store, s.Keeps (m.run s).2

theorem keeping_pure (a : α) : Keeping (pure a) := fun s => .refl s

theorem keeping_throw (f : Fault) : Keeping (throw f : StoreM α) := fun s => .refl s

theorem keeping_fail (f : Fault) : Keeping (fail f : StoreM α) := fun s => .refl s

theorem keeping_objects : Keeping objects := fun s => .refl s

theorem keeping_report (n : Notice) : Keeping (report n) :=
  fun _ => ⟨.refl _, rfl⟩

theorem keeping_ofExcept (r : Except Fault α) : Keeping (ofExcept r) := by
  cases r with
  | ok a => exact keeping_pure a
  | error f => exact keeping_fail f

theorem Keeping.bind {m : StoreM α} {k : α → StoreM β} (hm : Keeping m)
    (hk : ∀ a, Keeping (k a)) : Keeping (m >>= k) := by
  intro s
  have h := hm s
  cases hr : m.run s with
  | mk result t =>
    rw [hr] at h
    cases result with
    | ok a =>
      rw [run_bind_ok hr]
      exact h.trans (hk a t)
    | error f =>
      rw [run_bind_error hr]
      exact h

theorem Keeping.tryCatch {m : StoreM α} {handle : Fault → StoreM α} (hm : Keeping m)
    (hh : ∀ f, Keeping (handle f)) : Keeping (tryCatch m handle) := by
  intro s
  have h := hm s
  rw [run_tryCatch]
  cases hr : m.run s with
  | mk result t =>
    rw [hr] at h
    cases result with
    | ok a => exact h
    | error f => exact h.trans (hh f t)

theorem keeping_plain (v : Value) : Keeping (plain v) := by
  intro s
  rw [run_plain]
  cases s.objects.plain? v <;> exact .refl s

theorem keeping_newObject (entries : Entries Value) :
    Keeping (extend (Objects.newObject entries)) :=
  fun _ => ⟨Objects.kept_newObject entries _, rfl⟩

theorem keeping_copy (v : Value) : Keeping (extend (Objects.copy v)) :=
  fun _ => ⟨Objects.kept_copy v _, rfl⟩

end StoreM

namespace Node.Visit

open StoreM

theorem keeping_behavior (registry : Registry) (v : Visit) : Keeping (v.behavior registry) := by
  unfold behavior
  split
  · exact keeping_pure _
  · exact (keeping_report _).bind fun _ => keeping_fail _

theorem keeping_resolve (r : Record) (name : Text) (p : Parameter) :
    Keeping (p.resolve r name) := by
  cases p with
  | literal v => exact keeping_copy v
  | reference node socket =>
    refine keeping_objects.bind fun h => (keeping_ofExcept _).bind fun key => ?_
    split
    · exact keeping_pure _
    · exact keeping_fail _

theorem keeping_resolveEach {α : Type} {resolve : Text → α → StoreM Value}
    (h : ∀ name p, Keeping (resolve name p)) (ps : List (Text × α)) :
    Keeping (resolveEach resolve ps) := by
  induction ps with
  | nil => exact keeping_pure _
  | cons p ps ih => exact (h p.1 p.2).bind fun _ => ih.bind fun _ => keeping_pure _

theorem keeping_parameters (v : Visit) (n : Node) (r : Record) : Keeping (v.parameters n r) := by
  refine (keeping_resolveEach (keeping_resolve r) _).tryCatch fun f => Keeping.bind ?_ fun _ =>
    keeping_throw f
  unfold reportMissing
  split
  · exact keeping_report _
  · exact keeping_pure _

theorem keeping_reporting {α : Type} (v : Visit) {m : StoreM α} (h : Keeping m) :
    Keeping (v.reporting m) :=
  h.tryCatch fun f => (keeping_report _).bind fun _ => keeping_throw f

theorem keeping_flowEntries (flow : Flow) : Keeping (flowEntries flow) := by
  cases flow with
  | entries entries => exact keeping_pure _
  | value v => exact keeping_objects.bind fun _ => keeping_ofExcept _

theorem keeping_copiedFlow (entries : Entries Value) : Keeping (extend fun h =>
    let (flow, h) := h.newObject entries
    h.copy flow) :=
  fun s => (keeping_newObject entries s).trans
    (keeping_copy _ ((extend (Objects.newObject entries)).run s).2)

theorem keeping_call (n : Node) (access : Access) (parameters : Entries Value) :
    Keeping (call n access parameters) :=
  (keeping_newObject parameters).bind fun _ => (keeping_flowEntries n.flow).bind
    fun entries => (keeping_copiedFlow entries).bind fun _ => keeping_pure _

/-- The object of the parameters is made first, and what is made after it keeps it. -/
theorem entries?_of_call {n : Node} {access : Access} {ps : Entries Value} {c : Call}
    {s t : Store} (h : (Visit.call n access ps).run s = (.ok c, t)) :
    t.objects.entries? c.parameters = some ps := by
  unfold Visit.call at h
  obtain ⟨parameters, u, hparameters, hrest⟩ := ok_of_bind h
  have hlater : u.Keeps t := by
    have hk := ((keeping_flowEntries n.flow).bind fun entries =>
      (keeping_copiedFlow entries).bind fun flow =>
        StoreM.keeping_pure (⟨parameters, flow, access⟩ : Call)) u
    rw [hrest] at hk
    exact hk
  have hgiven : c.parameters = parameters := by
    obtain ⟨entries, u', hentries, hcopied⟩ := ok_of_bind hrest
    cases hcopied
    rfl
  obtain ⟨rfl, rfl⟩ : (s.objects.newObject ps).1 = parameters ∧
      s.withObjects (s.objects.newObject ps).2 = u := by
    cases hparameters
    exact ⟨rfl, rfl⟩
  rw [hgiven]
  exact hlater.entries?_newObject

def Finds (registry : Registry) (v : Visit) (b : Registered) : Prop :=
  ∃ p, NodeType.split v.type = .ok p ∧ registry.get? (p.1 ++ "." ++ p.2) = some b

theorem Finds.unique {registry : Registry} {v : Visit} {b b' : Registered}
    (h : v.Finds registry b) (h' : v.Finds registry b') : b = b' := by
  obtain ⟨p, hp, hb⟩ := h
  obtain ⟨p', hp', hb'⟩ := h'
  cases hp.symm.trans hp'
  exact Option.some.inj (hb.symm.trans hb')

def unknownNotice (v : Visit) : Notice :=
  ⟨.error, .interpreter, "Unknown node type " ++ v.type ++ " at node " ++ toString v.index, false⟩

theorem run_behavior (registry : Registry) (v : Visit) (s : Store) :
    (∃ b, v.Finds registry b ∧ (v.behavior registry).run s = (.ok b, s)) ∨
    (∀ b, ¬ v.Finds registry b) ∧ (v.behavior registry).run s =
      (.error (Fault.unknownType v.type (some v.index)).settled,
        { s with log := s.log.push v.unknownNotice }) := by
  unfold behavior Finds
  cases hp : NodeType.split v.type with
  | error f => exact .inr ⟨by simp, rfl⟩
  | ok p =>
    simp only [bind, Except.bind, Registry.lookup]
    cases hb : registry.get? (p.1 ++ "." ++ p.2) with
    | none => exact .inr ⟨by simp [hb], rfl⟩
    | some b => exact .inl ⟨b, ⟨p, rfl, hb⟩, rfl⟩

end Node.Visit

theorem Node.keeping_prepare (registry : Registry) (access : Access) (r : Record) (index : Nat)
    (n : Node) : StoreM.Keeping (prepare registry access r index n) := by
  refine StoreM.keeping_objects.bind fun h => (StoreM.keeping_ofExcept _).bind fun type => ?_
  refine (Visit.keeping_behavior registry _).bind fun b => ?_
  refine (Visit.keeping_parameters _ n r).bind fun parameters => ?_
  exact (Visit.keeping_reporting _ (Visit.keeping_call n access parameters)).bind fun _ =>
    StoreM.keeping_pure _

/-- What was prepared: the type was found, the parameters were resolved in the store
as it was, and the call was made of them. -/
theorem Node.prepare_ok {registry : Registry} {access : Access} {r : Record} {index : Nat}
    {n : Node} {v : Invocation} {t u : Store}
    (h : (prepare registry access r index n).run t = (.ok v, u)) :
    ∃ type ps t₁, NodeType.ofValue t.objects n.type = .ok type ∧ v.visit = ⟨index, type⟩ ∧
      v.visit.Finds registry v.behavior ∧ (v.visit.parameters n r).run t = (.ok ps, t₁) ∧
      (v.visit.reporting (Visit.call n access ps)).run t₁ = (.ok v.call, u) := by
  unfold prepare at h
  rw [run_bind_ok (StoreM.run_objects t)] at h
  obtain ⟨type, t₀, ht, h⟩ := ok_of_bind h
  obtain ⟨htype, rfl⟩ : NodeType.ofValue t.objects n.type = .ok type ∧ t = t₀ := by
    cases hr : NodeType.ofValue t.objects n.type with
    | error f => rw [hr] at ht; cases ht
    | ok type' => rw [hr] at ht; cases ht; exact ⟨rfl, rfl⟩
  obtain ⟨b, t₀, hb, h⟩ := ok_of_bind h
  obtain ⟨b', hfinds, hb'⟩ | ⟨-, hb'⟩ := Visit.run_behavior registry ⟨index, type⟩ t
  · cases hb.symm.trans hb'
    obtain ⟨ps, t₁, hps, h⟩ := ok_of_bind h
    obtain ⟨c, t₂, hc, h⟩ := ok_of_bind h
    cases h
    exact ⟨type, ps, t₁, htype, rfl, hfinds, hps, hc⟩
  · cases hb.symm.trans hb'

namespace Node.Invocation

def failureNotice (v : Invocation) (f : Fault) : Notice :=
  ⟨.error, .interpreter, v.visit.label ++ (" failed: " ++ f.message), false⟩

def outputNotice (v : Invocation) (kind : Kind) : Notice :=
  ⟨.error, .interpreter, v.visit.label ++ (" returned " ++ kind.name), false⟩

theorem run_answer (v : Invocation) (s : Store) :
    v.answer.run s = match (v.behavior.behave v.call).run s with
      | (.error f, t) => (.error f, { t with log := t.log.push (v.failureNotice f) })
      | (.ok reply, t) =>
        match reply.accept t.objects with
        | some output => (.ok output, t)
        | none => (.error (.invalidOutput v.visit.type (reply.kind t.objects)),
            { t with log := t.log.push (v.outputNotice (reply.kind t.objects)) }) := by
  unfold answer Visit.reporting
  rw [run_bind, run_tryCatch]
  cases (v.behavior.behave v.call).run s with
  | mk result t =>
    cases result with
    | error f => rfl
    | ok reply =>
      dsimp only
      unfold Visit.output
      rw [run_bind_ok (StoreM.run_objects t)]
      cases reply.accept t.objects <;> rfl

def successorNotice (v : Invocation) (next : Text) : Notice :=
  ⟨.debug, .interpreter, v.visit.label ++ (" -> " ++ next), false⟩

theorem run_conduct (v : Invocation) (s : Session) :
    v.conduct.run s = match v.answer.run s.store with
      | (.error f, t) => (.error f, ⟨t, s.record⟩)
      | (.ok output, t) =>
        match t.objects.plain? output.next with
        | none => (.error Fault.integerTooLong.settled,
            ⟨t, recorded v.visit.index output.result s.record⟩)
        | some next => (.ok ⟨v.visit.index, output⟩,
            ⟨{ t with log := t.log.push (v.successorNotice next) },
              recorded v.visit.index output.result s.record⟩) := by
  unfold conduct
  rw [run_bind, SessionM.run_onStore]
  cases v.answer.run s.store with
  | mk result t =>
    cases result with
    | error f => rfl
    | ok output =>
      dsimp only
      rw [run_bind_ok (SessionM.run_onRecord _ _), run_bind, SessionM.run_onStore, run_bind,
        StoreM.run_plain]
      cases t.objects.plain? output.next <;> rfl

end Node.Invocation

namespace Interpreter

variable {i : Interpreter} {nodes : List Node} {steps : Nat} {current : Value} {s t : Session}

theorem run_turn : (i.turn nodes steps current).run s =
    match (i.approach nodes steps current).run s with
      | (.ok v, t) => v.conduct.run t
      | (.error f, t) => (.error f, t) := by
  rw [turn, run_bind]
  cases (i.approach nodes steps current).run s with
  | mk approached t => cases approached <;> rfl

theorem keeping_checkCeiling (i : Interpreter) (steps : Nat) (current : Value) :
    StoreM.Keeping (i.checkCeiling steps current) := by
  unfold checkCeiling
  split
  · exact StoreM.keeping_pure _
  · split
    · exact (StoreM.keeping_plain _).bind fun _ => (StoreM.keeping_plain _).bind fun _ =>
        (StoreM.keeping_report _).bind fun _ => StoreM.keeping_fail _
    · exact StoreM.keeping_pure _

theorem keeping_nodeAt (nodes : List Node) (index : Value) :
    StoreM.Keeping (nodeAt nodes index) := by
  unfold nodeAt
  split
  · exact StoreM.keeping_pure _
  · exact StoreM.keeping_objects.bind fun _ => StoreM.keeping_fail _

def approachOn (i : Interpreter) (nodes : List Node) (steps : Nat) (current : Value) (r : Record) :
    StoreM Node.Invocation := do
  i.checkCeiling steps current
  let (index, node) ← nodeAt nodes current
  Node.prepare i.registry i.access r index node

theorem run_approach : (i.approach nodes steps current).run s =
    (((i.approachOn nodes steps current s.record).run s.store).1,
      ⟨((i.approachOn nodes steps current s.record).run s.store).2, s.record⟩) := by
  unfold approach approachOn
  rw [run_bind, SessionM.run_onStore, run_bind]
  cases (i.checkCeiling steps current).run s.store with
  | mk checked s₁ =>
    cases checked with
    | error f => rfl
    | ok _ =>
      dsimp only
      rw [run_bind, SessionM.run_onStore, run_bind]
      cases (nodeAt nodes current).run s₁ with
      | mk found s₂ => cases found <;> rfl

theorem approach_keeps {r : Except Fault Node.Invocation}
    (h : (i.approach nodes steps current).run s = (r, t)) :
    t.record = s.record ∧ s.store.Keeps t.store := by
  have hk : StoreM.Keeping (i.approachOn nodes steps current s.record) :=
    (keeping_checkCeiling i steps current).bind fun _ => (keeping_nodeAt nodes current).bind
      fun p => Node.keeping_prepare i.registry i.access s.record p.1 p.2
  have hs := hk s.store
  rw [run_approach] at h
  cases h
  exact ⟨rfl, hs⟩

/-- A turn that was completed: what its behavior answered was recorded, and the
successor could be written. -/
theorem turn_ok {e : Node.Evaluation} (h : (i.turn nodes steps current).run s = (.ok e, t)) :
    ∃ (v : Node.Invocation) (u : Session) (w : Store) (next : Text),
      (i.approach nodes steps current).run s = (.ok v, u) ∧
      v.answer.run u.store = (.ok e.output, w) ∧ e.index = v.visit.index ∧
      w.objects.plain? e.output.next = some next ∧
      t = ⟨{ w with log := w.log.push (v.successorNotice next) },
        Node.recorded e.index e.output.result s.record⟩ := by
  rw [run_turn] at h
  cases hv : (i.approach nodes steps current).run s with
  | mk approached u =>
    have hu := (approach_keeps hv).1
    rw [hv] at h
    cases approached with
    | error f => cases h
    | ok v =>
      dsimp only at h
      rw [Node.Invocation.run_conduct] at h
      cases ha : v.answer.run u.store with
      | mk answered w =>
        rw [ha] at h
        cases answered with
        | error f => cases h
        | ok output =>
          dsimp only at h
          cases hn : w.objects.plain? output.next with
          | none => rw [hn] at h; cases h
          | some next =>
            rw [hn] at h
            cases h
            exact ⟨v, u, w, next, rfl, ha, rfl, hn, by rw [hu]⟩

end Interpreter
end NodeWalk
