import NodeWalk.Proofs.LocalBehavior
import NodeWalk.Proofs.RenamedFlow
import NodeWalk.Proofs.RenamedGraph
import NodeWalk.Proofs.RenamedRecord
import NodeWalk.Proofs.Start
import NodeWalk.Proofs.Turn

set_option autoImplicit false

/-!
# Turns that follow each other

The turns of an interpreter with local behaviors follow each other: from mirrored
sessions, at the same place of a mirrored graph, they come to the same. The graph may
be mirrored on its own, apart from what the behaviors can reach. A turn takes copies
of its literals and of its control data, and only the copies enter the scope.
-/
namespace NodeWalk

instance : Carries Registered := .nothing Registered

instance : Carries Node.Evaluation where
  rename ρ e := ⟨e.index, rename ρ e.output⟩
  Within s e := Within s e.output
  mono hs h := Carries.mono (α := Output) hs h
  congr hs h := congrArg (Node.Evaluation.mk _) (Carries.congr (α := Output) hs h)
  same e := congrArg (Node.Evaluation.mk _) (Carries.same e.output)

instance : Carries Node.Invocation where
  rename ρ i := ⟨i.visit, i.behavior, rename ρ i.call⟩
  Within s i := Within s i.call
  mono hs h := Carries.mono (α := Call) hs h
  congr hs h := congrArg (Node.Invocation.mk _ _) (Carries.congr (α := Call) hs h)
  same i := congrArg (Node.Invocation.mk _ _) (Carries.same i.call)

section

variable {ρ ρ' σ : Renaming} {s s' p : Scope} {t t' u u' : Store}

namespace Key

variable {h h' : Objects}

theorem ofValues_rename (hm : Objects.Mirrors σ p h h') {node socket : Value}
    (hn : Within p node) (hs : Within p socket) :
    Matches σ p (ofValues h (.text nodeEntity) node socket)
      (ofValues h' (.text nodeEntity) (rename σ node) (rename σ socket)) := by
  have hkind {a : Addr} (ha : Within p (Value.ref a)) :
      (Fault.unhashable (h.kind (.ref a))).Alike (.unhashable (h'.kind (.ref (σ.cell a)))) := by
    rw [← rename_ref, hm.kind_rename ha]
    exact .refl _
  cases node with
  | ref a => exact hkind hn
  | scalar b =>
    cases socket with
    | ref a => exact hkind hs
    | scalar c => exact ⟨⟨within_of_not_float (by simp), hn, hs⟩, rfl⟩

end Key

/-- What is common to everything before the call: the scope of the run, and the graph
that is mirrored on its own. -/
structure Before (σ : Renaming) (p : Scope) (ρ : Renaming) (s : Scope) (t t' : Store) (r : Record) :
    Prop where
  linked : Linked ρ s t t'
  source : Objects.Source σ p ρ s t.objects t'.objects
  nodes : Record.OfNodes r.entries
  record : Within s r

theorem Before.kept {r : Record} (hb : Before σ p ρ s t t' r) (hl : Linked ρ' s' u u')
    (hg : Grows ρ s t ρ' s' u) (hk : t.Keeps u) (hk' : t'.Keeps u') :
    Before σ p ρ' s' u u' r where
  linked := hl
  source := hb.source.kept hk.toKept hk'.toKept hg.le hg.agrees
  nodes := hb.nodes
  record := Carries.mono hg.le hb.record

theorem Before.rename_record {r : Record} (hb : Before σ p ρ s t t' r)
    (hg : Grows ρ s t ρ' s' u) : rename ρ' r = rename ρ r :=
  Carries.congr hg.agrees hb.record

namespace Node.Visit

variable {r : Record}

theorem resolve_follows (hb : Before σ p ρ s t t' r) (name : Text) {q : Parameter}
    (hq : Within p q) :
    Follows ρ s t t' (q.resolve r name) ((rename σ q).resolve (rename ρ r) name) := by
  have hl := hb.linked
  cases q with
  | literal v => exact .copy hl hb.source hq
  | reference node socket =>
    refine .objects ?_
    obtain ⟨k, hk, hk', hw⟩ | ⟨f, f', hk, hk', hf⟩ :=
      (Key.ofValues_rename hb.source.toMirrors hq.1 hq.2).split
    · rw [hk, hk']
      have hfind := Record.find?_rename hb.nodes k ρ σ
      have hwithin := Record.within_find? hb.record k
      refine .passed ?_
      have hr : (rename ρ r).entries = rename ρ r.entries := rfl
      rw [hr, hfind]
      cases hv : Record.find? k r.entries with
      | none =>
        refine .fail hl ?_
        have hscalar (a : Scalar) : (a.mapMark σ.mark).mapMark (fun _ => 0) =
            a.mapMark fun _ => 0 := Scalar.mapMark_mapMark _ _ _
        show Fault.unresolved _ _ _ = Fault.unresolved _ _ _
        exact congrArg₂ (fun a b => Fault.unresolved a b (some name)) (hscalar k.index)
          (hscalar k.socket)
      | some v =>
        rw [hv] at hwithin
        exact .pure hl (within_some.1 hwithin)
    · rw [hk, hk']
      exact .refused hl hf _ _

theorem resolveEach_follows (hb : Before σ p ρ s t t' r) {qs : List (Text × Parameter)}
    (hq : Within p qs) :
    Follows ρ s t t' (resolveEach (Parameter.resolve r) qs)
      (resolveEach (Parameter.resolve (rename ρ r)) (rename σ qs)) := by
  induction qs generalizing ρ s t t' with
  | nil => exact .pure hb.linked (within_nil s)
  | cons q qs ih =>
    obtain ⟨name, q⟩ := q
    obtain ⟨hq, hqs⟩ := within_cons.1 hq
    refine .bind (resolve_follows hb name hq) fun ρ₁ s₁ u u' v hl hg hv hrun hrun' => ?_
    have hk := keeping_resolve r name q t
    have hk' := keeping_resolve (rename ρ r) name (rename σ q) t'
    rw [hrun] at hk
    rw [hrun'] at hk'
    have hb' := hb.kept hl hg hk hk'
    have hrest := ih hb' hqs
    rw [hb.rename_record hg] at hrest
    refine .bind hrest fun ρ₂ s₂ w w' vs hl₂ hg₂ hvs _ _ => ?_
    have hcons : (name, rename ρ₁ v) :: rename ρ₂ vs = rename ρ₂ ((name, v) :: vs) := by
      rw [rename_cons, rename_pair, Carries.congr hg₂.agrees hv]
    rw [hcons]
    exact .pure hl₂ (within_cons.2 ⟨Carries.mono hg₂.le hv, hvs⟩)

theorem run_reportMissing (v : Visit) (f : Fault) (t : Store) :
    ∃ log, (v.reportMissing f).run t = (.ok (), { t with log := log }) := by
  unfold reportMissing
  split
  · exact ⟨_, rfl⟩
  · exact ⟨t.log, rfl⟩

theorem parameters_follows (hb : Before σ p ρ s t t' r) (v : Visit) {n : Node}
    (hn : Within p n) :
    Follows ρ s t t' (v.parameters n r) (v.parameters (rename σ n) (rename ρ r)) := by
  refine .tryCatch (resolveEach_follows hb hn.2.1) fun ρ' s' u u' f f' hl _ hf => ?_
  obtain ⟨log, hlog⟩ := run_reportMissing v f u
  obtain ⟨log', hlog'⟩ := run_reportMissing v f' u'
  refine .of_kept (run_bind_ok hlog) (run_bind_ok hlog') (.refl _) (.throw ?_ hf)
  exact hl.kept (.refl _) (.refl _) rfl rfl

theorem reporting_follows {α : Type} [Carries α] (v : Visit) {m m' : StoreM α}
    (hm : Follows ρ s t t' m m') : Follows ρ s t t' (v.reporting m) (v.reporting m') := by
  refine .tryCatch hm fun ρ' s' u u' f f' hl _ hf => ?_
  exact .bind (.report hl _ _) fun _ _ _ _ _ hl' _ _ _ _ => .throw hl' hf

theorem givenFlow_follows (hl : Linked ρ s t t')
    (hp : Objects.Source σ p ρ s t.objects t'.objects) {es : Entries Value} (hes : Within p es)
    {w : Value} (hw : Within s w) (access : Access) :
    Follows ρ s t t'
      (do
        let flow ← StoreM.extend fun h =>
          let (flow, h) := h.newObject es
          h.copy flow
        return (⟨w, flow, access⟩ : Call))
      (do
        let flow ← StoreM.extend fun h =>
          let (flow, h) := h.newObject (rename σ es)
          h.copy flow
        return (⟨rename ρ w, flow, access⟩ : Call)) := by
  refine .bind (.copyEntries hl hp hes) fun ρ' s' u u' flow hl' hg hflow _ _ => ?_
  have hcall : (⟨rename ρ w, rename ρ' flow, access⟩ : Call) =
      rename ρ' (⟨w, flow, access⟩ : Call) := by
    rw [← Carries.congr hg.agrees hw]
    rfl
  rw [hcall]
  exact .pure hl' ⟨Carries.mono hg.le hw, hflow⟩

theorem call_follows (hb : Before σ p ρ s t t' r) (access : Access) {n : Node}
    (hn : Within p n) {parameters : Entries Value} (hp : Within s parameters) :
    Follows ρ s t t' (call n access parameters)
      (call (rename σ n) access (rename ρ parameters)) := by
  refine .bind (.newObject hb.linked hp) fun ρ₁ s₁ u u' w hl hg hw hrun hrun' => ?_
  have hk := StoreM.keeping_newObject parameters t
  have hk' := StoreM.keeping_newObject (rename ρ parameters) t'
  rw [hrun] at hk
  rw [hrun'] at hk'
  have hb' := hb.kept hl hg hk hk'
  have hpure {es : Entries Value} {x : Store} {k : Entries Value → StoreM Call} :
      (flowEntries (.entries es) >>= k).run x = (k es).run x := run_bind_ok rfl
  have hfl : (rename σ n).flow = rename σ n.flow := rfl
  have hnf := hn.2.2
  rw [hfl]
  cases hflow : n.flow with
  | entries es =>
    rw [hflow] at hnf
    exact .of_run hpure hpure (givenFlow_follows hb'.linked hb'.source hnf hw access)
  | value v =>
    rw [hflow] at hnf
    have hv : Within p v := hnf
    have hrun {x : Store} {v : Value} {k : Entries Value → StoreM Call} :
        (flowEntries (.value v) >>= k).run x =
          (StoreM.ofExcept (entriesOf x.objects v) >>= k).run x := rfl
    refine .of_run hrun hrun ?_
    obtain ⟨es, he, he', hes⟩ | ⟨f, f', he, he', hf⟩ :=
      (entriesOf_rename hb'.source.toMirrors hv).split
    · have he' : entriesOf u'.objects (rename σ v) = .ok (rename σ es) := he'
      rw [he, he']
      exact .passed (givenFlow_follows hb'.linked hb'.source hes hw access)
    · rw [he, he']
      exact .refused hl hf _ _

end Node.Visit

namespace Node

theorem ofValue_rename {h h' : Objects} (hm : Objects.Mirrors σ p h h') {v : Value}
    (hv : Within p v) : Matches σ p (NodeType.ofValue h v) (NodeType.ofValue h' (rename σ v)) := by
  have hkind : (Fault.lacks (h.kind v) "partition").Alike
      (.lacks (h'.kind (rename σ v)) "partition") := by
    rw [hm.kind_rename hv]
    exact .refl _
  cases v with
  | ref a => exact hkind
  | scalar b =>
    cases b with
    | text x => exact ⟨trivial, rfl⟩
    | _ => exact hkind

theorem visited_follows {r : Record} (hb : Before σ p ρ s t t' r) (registry : Registry)
    (access : Access) (v : Visit) {n : Node} (hn : Within p n) :
    Follows ρ s t t'
      (do
        let b ← v.behavior registry
        let parameters ← v.parameters n r
        return (⟨v, b, ← v.reporting (Visit.call n access parameters)⟩ : Invocation))
      (do
        let b ← v.behavior registry
        let parameters ← v.parameters (rename σ n) (rename ρ r)
        return (⟨v, b, ← v.reporting (Visit.call (rename σ n) access parameters)⟩ :
          Invocation)) := by
  obtain ⟨b, hfinds, hrun⟩ | ⟨hnone, hrun⟩ := v.run_behavior registry t
  · obtain ⟨b', hfinds', hrun'⟩ | ⟨hnone', -⟩ := v.run_behavior registry t'
    · obtain rfl : b = b' := hfinds.unique hfinds'
      refine .of_run (run_bind_ok hrun) (run_bind_ok hrun') ?_
      refine .bind (Visit.parameters_follows hb v hn) fun ρ₁ s₁ u u' ps hl hg hps hp hp' => ?_
      have hk := Visit.keeping_parameters v n r t
      have hk' := Visit.keeping_parameters v (rename σ n) (rename ρ r) t'
      rw [hp] at hk
      rw [hp'] at hk'
      have hcall := Visit.call_follows (hb.kept hl hg hk hk') access hn hps
      exact .bind (Visit.reporting_follows v hcall) fun _ _ _ _ _ hl₂ _ hc _ _ =>
        .pure (a := (⟨v, b, _⟩ : Invocation)) hl₂ hc
    · exact absurd hfinds (hnone' b)
  · obtain ⟨b, hfinds, -⟩ | ⟨-, hrun'⟩ := v.run_behavior registry t'
    · exact absurd hfinds (hnone b)
    · refine .of_kept (run_bind_error hrun) (run_bind_error hrun') (.refl _) (.throw ?_ (.refl _))
      exact hb.linked.kept (.refl _) (.refl _) rfl rfl

theorem prepare_follows {r : Record} (hb : Before σ p ρ s t t' r) (registry : Registry)
    (access : Access) (index : Nat) {n : Node} (hn : Within p n) :
    Follows ρ s t t' (prepare registry access r index n)
      (prepare registry access (rename ρ r) index (rename σ n)) := by
  refine .objects ?_
  have htype : (rename σ n).type = rename σ n.type := rfl
  rw [htype]
  obtain ⟨type, h, h', -⟩ | ⟨f, f', h, h', hf⟩ := (ofValue_rename hb.source.toMirrors hn.1).split
  · have h' : NodeType.ofValue t'.objects (rename σ n.type) = .ok type := h'
    rw [h, h']
    exact .passed (visited_follows hb registry access _ hn)
  · rw [h, h']
    exact .refused hb.linked hf _ _

end Node
namespace Node

theorem Visit.output_follows (hl : Linked ρ s t t') (v : Visit) {reply : Reply}
    (hr : Within s reply) : Follows ρ s t t' (v.output reply) (v.output (rename ρ reply)) := by
  refine .objects ?_
  obtain ⟨haccept, hw⟩ := Reply.accept_rename hl.toMirrors hr
  rw [haccept, Reply.kind_rename hl.toMirrors hr]
  cases ho : reply.accept t.objects with
  | none =>
    exact .bind (.report hl _ _) fun _ _ _ _ _ hl' _ _ _ _ => .fail hl' (.refl _)
  | some output =>
    rw [ho] at hw
    exact .pure hl (within_some.1 hw)

theorem Invocation.answer_follows (hl : Linked ρ s t t') {v : Invocation}
    (hb : v.behavior.behave.Local) (hv : Within s v) :
    Follows ρ s t t' v.answer (rename ρ v).answer :=
  .bind (Visit.reporting_follows v.visit (hb ρ s t t' v.call hl hv))
    fun _ _ _ _ _ hl' _ hr _ _ => Visit.output_follows hl' v.visit hr

end Node

namespace Interpreter

variable {i : Interpreter} {nodes : List Node} {steps : Nat} {current : Value} {r : Record}

theorem checkCeiling_follows (hl : Linked ρ s t t') (i : Interpreter) (steps : Nat)
    (hc : Within s current) :
    Follows ρ s t t' (i.checkCeiling steps current) (i.checkCeiling steps (rename ρ current)) := by
  unfold checkCeiling
  cases i.ceiling with
  | none => exact .pure hl trivial
  | some limit =>
    dsimp only
    split
    · have hplain : Follows ρ s t t' (StoreM.plain (.scalar limit))
          (StoreM.plain (.scalar limit)) := by
        refine .objects ?_
        rw [Objects.plain?_scalar, Objects.plain?_scalar]
        cases limit.plain? with
        | none => exact .fail hl (.refl _)
        | some text => exact .pure hl trivial
      refine .bind hplain fun ρ₁ s₁ u u' _ hl₁ hg₁ _ _ _ => ?_
      rw [Carries.congr hg₁.agrees.symm hc]
      refine .bind (.plain hl₁ (Carries.mono hg₁.le hc)) fun _ _ _ _ _ hl₂ _ _ _ _ => ?_
      exact .bind (.report hl₂ _ _) fun _ _ _ _ _ hl₃ _ _ _ _ => .fail hl₃ (.refl _)
    · exact .pure hl trivial

theorem find?_rename (ρ σ : Renaming) (nodes : List Node) (current : Value) :
    find? (rename σ nodes) (rename ρ current) = rename σ (find? nodes current) := by
  cases current with
  | ref a => rfl
  | scalar a =>
    cases a with
    | int n =>
      have hint : rename ρ (Value.int n) = .int n := rfl
      rw [hint, find?, find?]
      split
      · rw [rename_list, List.getElem?_map]
        cases nodes[n.toNat]? <;> rfl
      · rfl
    | _ => rfl

theorem within_find? {index : Nat} {n : Node} (hn : Within p nodes)
    (hf : find? nodes current = some (index, n)) : Within p n :=
  hn n (List.mem_of_getElem? (find?_eq_some_iff.1 hf).2)

theorem approachOn_follows (hb : Before σ p ρ s t t' r) (i : Interpreter) (steps : Nat)
    (hn : Within p nodes) (hc : Within s current) :
    Follows ρ s t t' (i.approachOn nodes steps current r)
      (i.approachOn (rename σ nodes) steps (rename ρ current) (rename ρ r)) := by
  have hk := keeping_checkCeiling i steps current t
  have hk' := keeping_checkCeiling i steps (rename ρ current) t'
  refine .bind (checkCeiling_follows hb.linked i steps hc) fun ρ₁ s₁ u u' _ hl hg _ hrun hrun' => ?_
  rw [hrun] at hk
  rw [hrun'] at hk'
  have hb' := hb.kept hl hg hk hk'
  have hat := run_nodeAt nodes current u
  have hat' := run_nodeAt (rename σ nodes) (rename ρ₁ current) u'
  rw [find?_rename] at hat'
  rw [Carries.congr hg.agrees.symm hc, Carries.congr hg.agrees.symm hb.record]
  cases hf : find? nodes current with
  | some q =>
    obtain ⟨index, n⟩ := q
    rw [hf] at hat hat'
    exact .of_run (run_bind_ok hat) (run_bind_ok hat')
      (Node.prepare_follows hb' i.registry i.access index (within_find? hn hf))
  | none =>
    rw [hf] at hat hat'
    refine .of_run (run_bind_error hat) (run_bind_error hat') (.throw hl (.settled ?_))
    show Fault.invalidIndex _ _ = Fault.invalidIndex _ _
    rw [hl.unmarked_unfold (Carries.mono hg.le hc), length_rename]

theorem finds_of_approach {v : Node.Invocation} {x y : Session}
    (h : (i.approach nodes steps current).run x = (.ok v, y)) :
    v.visit.Finds i.registry v.behavior := by
  rw [run_approach] at h
  obtain ⟨h, -⟩ := Prod.mk.inj h
  obtain ⟨_, _, -, h⟩ := ok_of_bind (Prod.ext h rfl)
  obtain ⟨_, _, -, h⟩ := ok_of_bind h
  obtain ⟨_, _, _, -, -, hf, -⟩ := Node.prepare_ok h
  exact hf

theorem local_of_finds (hr : i.registry.Local) {v : Node.Visit} {b : Registered}
    (hf : v.Finds i.registry b) : b.behave.Local := by
  obtain ⟨_, -, hb⟩ := hf
  exact hr _ b hb

end Interpreter
end
end NodeWalk
