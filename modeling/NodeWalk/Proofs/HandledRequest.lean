import NodeWalk.Proofs.GraphDocument
import NodeWalk.Proofs.LocalBuiltIn

set_option autoImplicit false

/-!
# Handled requests

The handler runs the nodes of the copied graph document over the world of the request, and what it
returns or raises tells how that run ended. The run of the nodes that the records themselves hold
ends in the same way, since the copy is their image and has no cell in common with the world.
-/
namespace NodeWalk

namespace Node

variable {s : Scope} {nodes : List Node}

theorem source_rename (σ : Renaming) (n : Node) : rename σ n.source = (rename σ n).source := by
  have hps : rename σ (n.parameters.map fun p => (p.1, Draft.tagged p.2)) =
      (rename σ n.parameters).map fun p => (p.1, Draft.tagged p.2) := by
    rw [rename_pairs, rename_pairs, List.map_map, List.map_map]
    rfl
  show NodeSource.assembled _ (rename σ (n.parameters.map _)) _ = NodeSource.assembled _ _ _
  rw [hps]
  rfl

theorem submission_rename (σ : Renaming) (nodes : List Node) :
    rename σ (Submission.list (nodes.map source)) = .list ((rename σ nodes).map source) := by
  show Submission.list (rename σ (nodes.map source)) = _
  rw [rename_list, rename_list, List.map_map, List.map_map]
  exact congrArg Submission.list (List.map_congr_left fun n _ => source_rename σ n)

theorem within_submission (hn : Within s nodes) :
    Within s (Submission.list (nodes.map source)) :=
  List.forall_mem_map.2 fun n hmem => ⟨(hn n hmem).1,
    List.forall_mem_map.2 fun p hp => (hn n hmem).2.1 p hp, (hn n hmem).2.2⟩

end Node

theorem Graph.within_parse {h : Objects} {s : Scope} {v : Value} {graph : Graph} (hs : h.Holds s)
    (hv : Within s v) (hg : Graph.parse h v = .ok graph) : Within s graph.nodes := by
  obtain ⟨_, hg', -, hw⟩ | ⟨_, _, hg', -⟩ := (Graph.parse_rename hs.mirrors hv).split
  · cases hg'.symm.trans hg
    exact hw
  · cases hg'.symm.trans hg

theorem Graph.ofParts_of_nodes {h : Objects} {all : List Form.NodeParts} {e : Int}
    {r : Except Fault (List Node)} (hr : Node.eachFrom (Node.ofParts h) 0 all = r) :
    Graph.ofParts h ⟨e, all, none⟩ = r.map fun nodes => ⟨nodes, e, none⟩ := by
  rw [Graph.ofParts, hr]
  cases r <;> rfl

theorem Interpreter.comes_failed {ρ : Renaming} {s : Scope} {t t' : Session} {f f' : Fault}
    (hl : Session.Linked ρ s t t') (hf : f.Alike f') (steps : Nat) :
    Comes (.failed steps f, t) (.failed steps f', t') := ⟨ρ, s, hl, rfl, hf⟩

theorem Interpreter.run_nodes_follows {i : Interpreter} (hreg : i.registry.Local) (turns : Nat)
    {σ ρ : Renaming} {p p' s s' : Scope} {h h' : Objects} {u u' : Store} {nodes : List Node}
    (ht : Session.Twins σ p p' h h' ρ s s' ⟨u, .empty⟩ ⟨u', .empty⟩) (hn : Within p nodes)
    (hn' : Within p' (rename σ nodes)) (e : Int) :
    Comes (i.run turns (.int e) (.list (nodes.map Node.source)) ⟨u, .empty⟩)
      (i.run turns (.int e) (.list ((rename σ nodes).map Node.source)) ⟨u', .empty⟩) := by
  have hsub' := Node.within_submission hn'
  rw [← Node.submission_rename] at hsub' ⊢
  exact run_follows hreg turns (t := ⟨u, .empty⟩) ht (Node.within_submission hn) hsub'
    (within_int p e)

namespace Service

def tree (s : Store) : Unfolding := (s.objects.unfold s.root).unmarked

/-- What the handler of a run tells of how a run ended: it returns the document, or it raises an
answer with the fault, and with its class if it has one. -/
inductive Reports : Ending × Session → Option (Outcome × Store) → Prop where
  | unfinished (steps : Nat) (current : Value) (t : Session) :
    Reports (.unfinished steps current, t) none
  | halted {steps : Nat} {t : Session} {world : Value} {u : Store}
    (document : (u.objects.unfold world).unmarked = tree t.store) :
    Reports (.halted steps, t) (some (.returned world, u))
  | rejected {steps : Nat} {f : Fault} {t : Session} {name : String} {u : Store}
    (named : f.name? = some name) (document : tree u = tree t.store) :
    Reports (.failed steps f, t) (some (.raised 422
      (.object [(↑"error", .text name), (↑"message", .text f.message)]), u))
  | failed {steps : Nat} {f : Fault} {t : Session} {u : Store}
    (unnamed : f.name? = none) (document : tree u = tree t.store) :
    Reports (.failed steps f, t) (some (.raised 500 (.text f.message), u))

namespace Reports

variable {e e' : Ending × Session} {o : Option (Outcome × Store)}

theorem of_rejected (f : Fault) (steps : Nat) (t : Session) :
    Reports (.failed steps f, t) (some (Service.rejected f t.store)) := by
  unfold Service.rejected
  cases hname : f.name? with
  | none => exact .failed hname rfl
  | some name => exact .rejected hname rfl

theorem of_comes (hc : Interpreter.Comes e e') (hr : Reports e' o) : Reports e o := by
  have htree : tree e'.2.store = tree e.2.store := hc.unfold.1
  obtain ⟨ρ, s, -, hends⟩ := hc
  obtain ⟨ending, t⟩ := e
  cases hr with
  | unfinished steps' current' t' =>
    cases ending with
    | unfinished steps current => exact .unfinished _ _ _
    | _ => exact hends.elim
  | halted document =>
    cases ending with
    | halted steps => exact .halted (document.trans htree)
    | _ => exact hends.elim
  | rejected named document =>
    cases ending with
    | failed steps f =>
      rw [hends.2.message]
      exact .rejected (hends.2.name? ▸ named) (document.trans htree)
    | _ => exact hends.elim
  | failed unnamed document =>
    cases ending with
    | failed steps f =>
      rw [hends.2.message]
      exact .failed (hends.2.name? ▸ unnamed) (document.trans htree)
    | _ => exact hends.elim

end Reports

variable {settings : Settings} {turns : Nat} {ceiling : Option Scalar} {h : Objects} {q : Scope}
  {parts : RunParts} {world : Value}

theorem prepare_of_made {document : Value} {g : Objects} (hgiven : parts.world = some world)
    (hmade : graphDocument parts ((Origin.value world).opened h).objects = (document, g)) :
    prepare h parts = (Graph.parse g document, ((Origin.value world).opened h).withObjects g) := by
  have hstore : WorldFile.ofValue (parts.world.getD .null) h = (Origin.value world).opened h := by
    rw [hgiven]
    rfl
  rw [prepare, hstore, hmade]
  rfl

theorem handle_of_error {f : Fault} {u : Store} (hp : prepare h parts = (.error f, u)) :
    handle settings turns h parts = some (rejected f u) := by
  rw [handle, hp]

theorem reports_handle {graph : Graph} {u : Store} (hp : prepare h parts = (.ok graph, u))
    (hc : Ceiling.ofScalar (.int (parts.ceiling.getD settings.maxSteps)) = .ok ceiling)
    (turns : Nat) :
    Reports (Interpreter.run ⟨.builtIn, .full, ceiling⟩ turns (.int graph.entry)
      (.list (graph.nodes.map Node.source)) ⟨u, .empty⟩) (handle settings turns h parts) := by
  rw [handle, hp]
  dsimp only
  rw [hc]
  dsimp only
  generalize Interpreter.run _ turns _ _ _ = r
  obtain ⟨ending, t⟩ := r
  cases ending with
  | unfinished steps current => exact .unfinished _ _ _
  | failed steps f => exact .of_rejected f steps t
  | halted steps =>
    refine .halted ?_
    have hi := Objects.images_copy t.store.objects t.store.root
    have hu := hi.unmarked_unfold (Objects.within_reached t.store.objects t.store.root)
    rw [Objects.copy_eq] at hu ⊢
    exact hu

variable {σ : Renaming} {p p' : Scope} {document : Value} {g : Objects}

/-- The world beside the request and the world beside the copy are twins: neither of them has a cell
in common with what is run over it. -/
theorem Copied.twins (hq : h.Holds q) (hworld : Within q world)
    (hc : Copied q ((Origin.value world).opened h).objects parts σ p p' document g) :
    ∃ ρ s s', Session.Twins σ p p' ((Origin.value world).opened h).objects g ρ s s'
      ⟨(Origin.value world).opened h, .empty⟩
      ⟨((Origin.value world).opened h).withObjects g, .empty⟩ := by
  obtain ⟨ρ, s, hl, hg⟩ := Origin.opened_linked hq.mirrors (o := .value world) hworld
  have hlive : Session.Live s ⟨(Origin.value world).opened h, .empty⟩ :=
    ⟨hl.toHolds, hl.root, fun _ he => (nomatch he), within_nil s⟩
  have hlive' : Session.Live s ⟨((Origin.value world).opened h).withObjects g, .empty⟩ :=
    hlive.emptied ⟨hc.kept, rfl⟩
  refine ⟨ρ, s, s.withMarks p', ?_⟩
  exact
    { linked := ⟨hl.kept (.refl _) hc.kept rfl rfl, fun _ he => (nomatch he), within_nil s, rfl⟩
      twinned := hc.twinned
      apart :=
        { live := hlive
          same := ⟨hc.holds, fun _ _ => rfl⟩
          disjoint := fun a ha hs => absurd (hq.size a (hc.inside a ha))
            (Nat.not_lt_of_le (hg.fresh a hs fun hn => hn.elim))
          marks := fun m hm => hg.le.2 (hc.marks ▸ hm) }
      apart' :=
        { live := hlive'.withMarks hc.image
          same := ⟨hc.image, fun _ _ => rfl⟩
          disjoint := fun a ha hs => absurd (hl.size a hs) (Nat.not_lt_of_le (hc.fresh a ha))
          marks := fun _ hm => .inr hm }
      marks := fun m hm => by
        rw [hc.sameMark, hg.agrees.mark m (hc.marks ▸ hm)]
        rfl }

theorem Copied.reports_nodes
    (hcopied : Copied q ((Origin.value world).opened h).objects parts σ p p' document g)
    (hq : h.Holds q) (hworld : Within q world)
    (hp : prepare h parts = (Graph.parse g document, ((Origin.value world).opened h).withObjects g))
    (hc : Ceiling.ofScalar (.int (parts.ceiling.getD settings.maxSteps)) = .ok ceiling)
    (turns : Nat) {nodes : List Node}
    (hn : Node.eachFrom (Node.ofParts ((Origin.value world).opened h).objects) 0 parts.nodes =
      .ok nodes) :
    Reports (Interpreter.run ⟨.builtIn, .full, ceiling⟩ turns (.int parts.entry)
      (.list (nodes.map Node.source)) ⟨(Origin.value world).opened h, .empty⟩)
      (handle settings turns h parts) := by
  obtain ⟨ρ, s, s', ht⟩ := hcopied.twins hq hworld
  have hparsed := hcopied.parsed
  rw [Graph.ofParts_of_nodes hn] at hparsed
  obtain ⟨_, he, himage, hwithin⟩ | ⟨_, _, he, -⟩ := hparsed.split
  · cases he
    have himage : Graph.parse g document = .ok ⟨rename σ nodes, parts.entry, none⟩ := himage
    have hwithin' := Graph.within_parse hcopied.image hcopied.withinCopy himage
    rw [himage] at hp
    exact .of_comes (Interpreter.run_nodes_follows Registry.local_builtIn turns ht hwithin hwithin'
      parts.entry) (reports_handle hp hc turns)
  · cases he

theorem Copied.reports_fault
    (hcopied : Copied q ((Origin.value world).opened h).objects parts σ p p' document g)
    (hq : h.Holds q) (hworld : Within q world)
    (hp : prepare h parts = (Graph.parse g document, ((Origin.value world).opened h).withObjects g))
    (turns : Nat) {f : Fault}
    (hf : Node.eachFrom (Node.ofParts ((Origin.value world).opened h).objects) 0 parts.nodes =
      .error f) :
    Reports (.failed 0 f, ⟨(Origin.value world).opened h, .empty⟩)
      (handle settings turns h parts) := by
  obtain ⟨ρ, s, s', ht⟩ := hcopied.twins hq hworld
  have hparsed := hcopied.parsed
  rw [Graph.ofParts_of_nodes hf] at hparsed
  obtain ⟨_, he, -⟩ | ⟨_, f', he, himage, halike⟩ := hparsed.split
  · cases he
  · cases he
    rw [himage] at hp
    rw [handle_of_error hp]
    exact .of_comes (Interpreter.comes_failed ht.linked halike 0) (.of_rejected f' 0 _)

/-- The handler tells how the nodes run that the parts themselves hold, or with which fault these
are refused. -/
theorem reports_parts (hq : h.Holds q) (hworld : Within q world) (hparts : Within q parts.nodes)
    (hsound : ∀ n ∈ parts.nodes, n.Sound ((Origin.value world).opened h).objects)
    (hgiven : parts.world = some world)
    (hc : Ceiling.ofScalar (.int (parts.ceiling.getD settings.maxSteps)) = .ok ceiling)
    (turns : Nat) :
    (∀ nodes, Node.eachFrom (Node.ofParts ((Origin.value world).opened h).objects) 0 parts.nodes =
        .ok nodes → Reports (Interpreter.run ⟨.builtIn, .full, ceiling⟩ turns (.int parts.entry)
          (.list (nodes.map Node.source)) ⟨(Origin.value world).opened h, .empty⟩)
          (handle settings turns h parts)) ∧
      ∀ f, Node.eachFrom (Node.ofParts ((Origin.value world).opened h).objects) 0 parts.nodes =
        .error f → Reports (.failed 0 f, ⟨(Origin.value world).opened h, .empty⟩)
          (handle settings turns h parts) := by
  have hq' : ((Origin.value world).opened h).objects.Holds q :=
    hq.kept (Document.kept_adopt world h)
  obtain ⟨σ, p, p', hcopied⟩ := copied_graphDocument hq' hparts hsound
  cases hmade : graphDocument parts ((Origin.value world).opened h).objects with | mk document g =>
  rw [hmade] at hcopied
  have hprepare := prepare_of_made hgiven hmade
  exact ⟨fun _ hn => hcopied.reports_nodes hq hworld hprepare hc turns hn,
    fun _ hf => hcopied.reports_fault hq hworld hprepare turns hf⟩

end Service
end NodeWalk
