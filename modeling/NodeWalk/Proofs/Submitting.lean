import NodeWalk.Proofs.Grounded
import NodeWalk.Proofs.HandledRequest
import NodeWalk.Proofs.StepCeiling

set_option autoImplicit false

/-!
# Ways to submit a graph

Records can be given to a run as they are, parsed one by one, parsed as a graph document,
or sent with a request. All of these check the same rules, though not in the same order,
and put together the same nodes. So they are all refused, or all of them run alike.
-/
namespace NodeWalk

namespace Objects

variable {h g : Objects} {v w : Value}

theorem hereditary_has (h : Objects) : h.Hereditary h.Has := by
  intro v c hv hc w hw b hb
  cases v with
  | scalar a => cases hc
  | ref a =>
    cases hc
    exact hv b (reach_inside (mem_reach_ref h a) hw b hb)

theorem Has.find?_kept (hv : h.Has v) (hk : h.Kept g) : g.find? v = h.find? v :=
  hk.find?_eq fun a ha => hv a (ha ▸ mem_reach_ref h a)

theorem Has.entries?_kept (hv : h.Has v) (hk : h.Kept g) : g.entries? v = h.entries? v := by
  rw [entries?, entries?, hv.find?_kept hk]

theorem Has.items?_kept (hv : h.Has v) (hk : h.Kept g) : g.items? v = h.items? v := by
  rw [items?, items?, hv.find?_kept hk]

end Objects

namespace Form

variable {h g : Objects} {v : Value}

theorem optionalObject_kept {field : Option Value} (hf : ∀ v, field = some v → h.Has v)
    (hk : h.Kept g) : optionalObject g field = optionalObject h field := by
  unfold optionalObject
  split
  · rfl
  · rfl
  · simp only [objectOf, (hf _ rfl).entries?_kept hk]

theorem checkNode_kept (hv : h.Has v) (hk : h.Kept g) (form : Form) :
    checkNode g form v = checkNode h form v := by
  unfold checkNode
  rw [hv.entries?_kept hk]
  cases hfields : h.entries? v with
  | none => rfl
  | some fields =>
    have hobject (k : Text) : optionalObject g (Entries.get? k fields) =
        optionalObject h (Entries.get? k fields) := by
      refine optionalObject_kept (fun w hw => ?_) hk
      exact (Objects.hereditary_has h).of_entry hv hfields (Entries.mem_of_get? hw)
    simp only [field, hobject]

variable {i : Nat} {items : List Value}

theorem checkNodesFrom_kept (hitems : ∀ v ∈ items, h.Has v) (hk : h.Kept g) (form : Form)
    (i : Nat) : checkNodesFrom g form i items = checkNodesFrom h form i items := by
  induction items generalizing i with
  | nil => rfl
  | cons v vs ih =>
    obtain ⟨hv, hvs⟩ := List.forall_mem_cons.1 hitems
    rw [checkNodesFrom, checkNodesFrom, checkNode_kept hv hk, ih hvs]

end Form

namespace Fault

theorem settled_settled (f : Fault) : f.settled.settled = f.settled := by
  by_cases hf : f.text?.isSome = true
  · simp only [settled, if_pos hf]
  · simp only [settled, if_neg hf]
    rfl

def Explicable (f : Fault) : Prop := (∃ g, f = .graph g) ∨ f.settled = f

theorem explicable_settled (f : Fault) : f.settled.Explicable := .inr (settled_settled f)

theorem Explicable.settled_explained {f : Fault} (hf : f.Explicable)
    (wrap : GraphFault → GraphFault) : (f.explained wrap).settled = f.explained wrap := by
  obtain ⟨g, rfl⟩ | hf := hf
  · exact settled_settled _
  · cases f with
    | graph g => exact settled_settled _
    | _ => exact hf

end Fault

theorem Parameter.explicable_of_ofValue {h : Objects} {v : Value} {f : Fault}
    (hf : ofValue h v = .error f) : f.Explicable := by
  have hsettled {g : Fault} (hg : (Except.error g.settled : Except Fault Parameter) = .error f) :
      f.Explicable := Except.error.inj hg ▸ Fault.explicable_settled g
  unfold ofValue at hf
  split at hf
  · cases hf
  · split at hf
    · cases hf
    · split at hf
      · split at hf
        · exact hsettled hf
        · cases hf
      · exact hsettled hf
    · exact hsettled hf

theorem Parameter.explicable_of_ofDrafts {h : Objects} {ds : List (Text × Draft)} {f : Fault}
    (hf : ofDrafts h ds = .error f) : f.Explicable := by
  obtain ⟨⟨k, d⟩, -, hd⟩ := ofDrafts_error hf
  cases d with
  | tagged p => cases hd
  | untagged v => exact explicable_of_ofValue hd

namespace Node

variable {h : Objects} {f : Fault} {items : List Value} {all : List Form.NodeParts} {i : Nat}

theorem explicable_of_build {type : Value} {ds : List (Text × Draft)} {flow : Flow}
    (hf : build h type ds flow = .error f) : f.Explicable := by
  obtain ⟨f', hds, rfl⟩ := build_error hf
  exact .inr ((Parameter.explicable_of_ofDrafts hds).settled_explained _)

theorem explicable_of_parse {source : NodeSource} (hf : parse h source = .error f) :
    f.Explicable := by
  cases source with
  | assembled type ds flow => exact explicable_of_build hf
  | record v =>
    rw [parse] at hf
    cases hc : Form.checkNode h .node v with
    | error vs =>
      rw [hc] at hf
      cases hf
      exact .inl ⟨_, rfl⟩
    | ok parts =>
      rw [hc] at hf
      exact explicable_of_build hf

theorem settled_of_eachFrom {sources : List NodeSource}
    (hf : eachFrom (parse h) i sources = .error f) : f.settled = f := by
  obtain ⟨k, a, f', -, ha, rfl⟩ := eachFrom_error hf
  exact (explicable_of_parse ha).settled_explained _

/-- Where all records have the form, parsing them one by one does to each what is done to
its parts. -/
theorem eachFrom_records (hall : Form.checkNodesFrom h .node i items = .ok all) (j : Nat) :
    eachFrom (parse h) j (items.map .record) = eachFrom (ofParts h) j all := by
  have hparts := Form.checkNodesFrom_ok_iff.1 hall
  clear hall
  induction hparts generalizing j with
  | nil => rfl
  | cons hv _ ih => simp only [List.map_cons, eachFrom, parse, hv, ih]

theorem exists_checkNodesFrom {nodes : List Node}
    (hn : eachFrom (parse h) i (items.map .record) = .ok nodes) :
    ∃ all, Form.checkNodesFrom h .node 0 items = .ok all := by
  simp only [Form.checkNodesFrom_ok_iff]
  have hparsed := List.forall₂_map_left_iff.1 (eachFrom_ok_iff.1 hn)
  clear hn
  induction hparsed with
  | nil => exact ⟨[], .nil⟩
  | @cons v n vs ns hv _ ih =>
    obtain ⟨all, hall⟩ := ih
    rw [parse] at hv
    cases hc : Form.checkNode h .node v with
    | error violations => rw [hc] at hv; cases hv
    | ok parts => exact ⟨parts :: all, .cons hc hall⟩

end Node

namespace Graph

/-- The document of a graph without a name that has the entry, and the records as its nodes. -/
def Lists (h : Objects) (doc : Value) (e : Int) (records : List Value) : Prop :=
  ∃ fields nodes, h.entries? doc = some fields ∧ Entries.get? "entry" fields = some (.int e) ∧
    Entries.get? "nodes" fields = some nodes ∧ Entries.get? "name" fields = none ∧
      h.items? nodes = some records

variable {h : Objects} {doc : Value} {e : Int} {records : List Value} {parts : Form.GraphParts}

theorem Lists.checkGraph_ok_iff (hd : Lists h doc e records) :
    Form.checkGraph h doc = .ok parts ↔ ∃ all, Form.checkNodesFrom h .node 0 records = .ok all ∧
      ⟨e, all, none⟩ = parts := by
  obtain ⟨fields, nodes, hfields, hentry, hnodes, hname, hitems⟩ := hd
  exact Form.checkGraph_ok_iff hfields hentry hnodes hname hitems

end Graph

namespace Interpreter

variable {i : Interpreter} {turns : Nat} {entry : Value} {submitted submitted' : Submission}
  {s : Session}

theorem run_congr (h : Node.parseAll s.store.objects submitted =
    Node.parseAll s.store.objects submitted') (turns : Nat) :
    i.run turns entry submitted s = i.run turns entry submitted' s := by
  unfold run
  rw [run_start, run_start, h]

theorem run_of_parse_error {f : Fault} (h : Node.parseAll s.store.objects submitted = .error f)
    (turns : Nat) : i.run turns entry submitted s = (.failed 0 f.settled, ⟨s.store, .empty⟩) := by
  refine run_of_start_error ?_ turns
  rw [run_start, h]

theorem run_of_records_error {sources : List NodeSource} {f : Fault}
    (hf : Node.parseAll s.store.objects (.list sources) = .error f) (turns : Nat) :
    i.run turns entry (.list sources) s = (.failed 0 f, ⟨s.store, .empty⟩) := by
  rw [run_of_parse_error hf, Node.settled_of_eachFrom hf]

/-- What becomes of records: submitted as they are, parsed one by one, parsed with a document that
lists them, and handled with a request. All ways refuse them, and no node is evaluated; or they
agree on the nodes, which run alike, and the handler tells how that run ends. -/
inductive Submits (i : Interpreter) (turns : Nat) (e : Int) (records : List Value) (s : Session)
    (handled : Checked (Option (Service.Outcome × Store))) : Prop
  | refused {f : Fault}
    (nodes : Node.parseAll s.store.objects (.list (records.map .record)) = .error f)
    (graph : ∀ g doc, s.store.objects.Kept g → Graph.Lists g doc e records →
      ∃ f', Graph.parse g doc = .error f')
    (run : i.run turns (.int e) (.list (records.map .record)) s =
      (.failed 0 f, ⟨s.store, .empty⟩))
    (handler : (∃ violations, handled = .error violations) ∨
      (∀ g doc, s.store.objects.Kept g → Graph.Lists g doc e records →
        ∃ f', Graph.parse g doc = .error f' ∧ f.Alike f') ∧
      ∃ o, handled = .ok o ∧ Service.Reports (.failed 0 f, ⟨s.store, .empty⟩) o)
  | accepted {nodes : List Node} {o : Option (Service.Outcome × Store)}
    (parsed : Node.parseAll s.store.objects (.list (records.map .record)) = .ok nodes)
    (again : Node.parseAll s.store.objects (.list (nodes.map Node.source)) = .ok nodes)
    (graph : ∀ g doc, s.store.objects.Kept g → Graph.Lists g doc e records →
      Graph.parse g doc = .ok ⟨nodes, e, none⟩)
    (run : i.run turns (.int e) (.list (records.map .record)) s =
      i.run turns (.int e) (.list (nodes.map Node.source)) s)
    (handler : handled = .ok o)
    (reports : Service.Reports (i.run turns (.int e) (.list (nodes.map Node.source)) s) o)

end Interpreter

namespace Service

def limitField : Option Nat → Scalar
  | none => .null
  | some n => .int n

def request (e : Int) (nodes : List Json) (world : List (Text × Json)) (limit : Option Nat) :
    Json :=
  .object [(↑"entry", .scalar (.int e)), (↑"nodes", .array nodes), (↑"world", .object world),
    (↑"max_steps", .scalar (limitField limit))]

structure Asks (h : Objects) (req : Value) (e : Int) (records : List Value) (world : Value)
    (limit : Option Nat) : Prop where
  has : h.Has req
  fields : ∃ nodes, h.entries? req = some [(↑"entry", .int e), (↑"nodes", nodes),
    (↑"world", world), (↑"max_steps", .scalar (limitField limit))] ∧ h.items? nodes = some records
  world : ∃ entries, h.entries? world = some entries

variable {h g : Objects} {req world : Value} {e : Int} {records : List Value} {limit : Option Nat}

namespace Asks

theorem of_hereditary {Q : Value → Prop} (ha : Asks h req e records world limit)
    (hq : h.Hereditary Q) (hreq : Q req) : Q world ∧ ∀ v ∈ records, Q v := by
  obtain ⟨nodes, hfields, hitems⟩ := ha.fields
  have hnodes := hq.of_entry hreq hfields (k := "nodes") (w := nodes) (by simp)
  have hworld := hq.of_entry hreq hfields (k := "world") (w := world) (by simp)
  exact ⟨hworld, fun v hv => hq.of_item hnodes hitems hv⟩

theorem has_records (ha : Asks h req e records world limit) : ∀ v ∈ records, h.Has v :=
  (ha.of_hereditary (Objects.hereditary_has h) ha.has).2

theorem lists (ha : Asks h req e records world limit) (hk : h.Kept g) :
    Graph.Lists g req e records := by
  obtain ⟨nodes, hfields, hitems⟩ := ha.fields
  have hnodes := (Objects.hereditary_has h).of_entry ha.has hfields (k := "nodes") (w := nodes)
    (by simp)
  refine ⟨_, nodes, (ha.has.entries?_kept hk).trans hfields, ?_, ?_, ?_,
    (hnodes.items?_kept hk).trans hitems⟩ <;> simp [Entries.get?]

end Asks

theorem asks_newObject {nodes : Value} {entries : Entries Value} (hnodes : h.Grounded nodes)
    (hitems : h.items? nodes = some records) (hworld : h.Grounded world)
    (hentries : h.entries? world = some entries) (e : Int) (limit : Option Nat) :
    let es : Entries Value := [(↑"entry", .int e), (↑"nodes", nodes), (↑"world", world),
      (↑"max_steps", .scalar (limitField limit))]
    Asks (h.newObject es).2 (h.newObject es).1 e records world limit := by
  intro es
  have hk := Objects.kept_newObject es h
  have hes : ∀ x ∈ es, h.Grounded x.2 := by
    simp only [es, List.forall_mem_cons]
    exact ⟨Objects.grounded_scalar h _, hnodes, hworld, Objects.grounded_scalar h _,
      List.forall_mem_nil _⟩
  exact ⟨(Objects.grounded_newObject hes).has,
    ⟨nodes, Objects.entries?_newObject es h, (hnodes.has.items?_kept hk).trans hitems⟩,
    ⟨entries, (hworld.has.entries?_kept hk).trans hentries⟩⟩

theorem asks_request (e : Int) (nodes : List Json) (world : List (Text × Json))
    (limit : Option Nat) : ∃ records w, Asks (Objects.empty.load (request e nodes world limit)).2
      (Objects.empty.load (request e nodes world limit)).1 e records w limit := by
  obtain ⟨-, hnodes⟩ := Objects.loads (.array nodes) Objects.empty
  obtain ⟨hk, hworld⟩ := Objects.loads (.object world) (Objects.empty.load (.array nodes)).2
  have hitems := (hnodes.has.items?_kept hk).trans (Objects.items?_newArray _ _)
  exact ⟨_, _, asks_newObject (hnodes.kept hk) hitems hworld (Objects.entries?_newObject _ _) e
    limit⟩

theorem optionalCeiling_limitField (limit : Option Nat) :
    Form.optionalCeiling (some (.scalar (limitField limit))) = .ok (limit.map Int.ofNat) := by
  cases limit with
  | none => rfl
  | some n =>
    have hn : ¬ (n : Int) < 0 := Int.not_lt.2 (Int.natCast_nonneg n)
    simp [Form.optionalCeiling, limitField, Form.integer, IntegerField.ofValue, bind,
      Except.bind, hn]

theorem Asks.checkRun_ok_iff (ha : Asks h req e records world limit) {parts : RunParts} :
    checkRun h req = .ok parts ↔ ∃ all, Form.checkNodesFrom h .request 0 records = .ok all ∧
      ⟨e, all, some world, limit.map Int.ofNat⟩ = parts := by
  obtain ⟨nodes, hfields, hitems⟩ := ha.fields
  obtain ⟨entries, hworld⟩ := ha.world
  have hentry : Form.integerOr 0 (some (.int e)) = .ok e := rfl
  have hw : worldField h (some world) = .ok (some world) := by
    simp only [worldField, Form.objectOf, hworld, Except.map]
  unfold checkRun
  rw [hfields]
  simp only [Checked.within_ok_iff, map_ok_iff, Checked.both_ok_iff, Form.field,
    Entries.get?]
  simp [hentry, hw, Form.checkNodes, hitems, optionalCeiling_limitField]

variable {settings : Settings} {turns : Nat} {ceiling : Option Scalar} {q : Scope}

theorem Asks.refused_of_error (ha : Asks h req e records world limit) {vs : List Violation}
    (hall : Form.checkNodesFrom h .request 0 records = .error vs) :
    (∀ g, h.Kept g → (∃ f, Node.parseAll g (.list (records.map .record)) = .error f) ∧
      ∀ doc, Graph.Lists g doc e records → ∃ f, Graph.parse g doc = .error f) ∧
    ∃ violations, checkRun h req = .error violations := by
  have hno {g : Objects} (hk : h.Kept g) (all : List Form.NodeParts) :
      Form.checkNodesFrom g .node 0 records ≠ .ok all := by
    intro hok
    rw [Form.checkNodesFrom_kept ha.has_records hk, Form.checkNodesFrom_ok_congr .node .request,
      hall] at hok
    cases hok
  refine ⟨fun g hk => ⟨?_, fun doc hd => ?_⟩, ?_⟩
  · cases hp : Node.parseAll g (.list (records.map .record)) with
    | error f => exact ⟨f, rfl⟩
    | ok nodes =>
      obtain ⟨all, hok⟩ := Node.exists_checkNodesFrom hp
      exact absurd hok (hno hk all)
  · cases hp : Form.checkGraph g doc with
    | error violations => exact ⟨.graph (.invalidDocument violations), by rw [Graph.parse, hp]⟩
    | ok parts =>
      obtain ⟨all, hok, -⟩ := hd.checkGraph_ok_iff.1 hp
      exact absurd hok (hno hk all)
  · cases hcheck : checkRun h req with
    | error violations => exact ⟨violations, rfl⟩
    | ok parts =>
      obtain ⟨all, hok, -⟩ := ha.checkRun_ok_iff.1 hcheck
      cases hall.symm.trans hok

theorem Asks.parsed_of_ok (ha : Asks h req e records world limit) (hk : h.Kept g)
    {all : List Form.NodeParts} (hall : Form.checkNodesFrom h .request 0 records = .ok all) :
    Node.parseAll g (.list (records.map .record)) = Node.eachFrom (Node.ofParts g) 0 all ∧
      (∀ doc, Graph.Lists g doc e records → Graph.parse g doc = Graph.ofParts g ⟨e, all, none⟩) ∧
      ∀ n ∈ all, n.Sound g := by
  have hok : Form.checkNodesFrom g .node 0 records = .ok all := by
    rw [Form.checkNodesFrom_kept ha.has_records hk]
    exact (Form.checkNodesFrom_ok_congr .node .request).2 hall
  refine ⟨Node.eachFrom_records hok 0, fun doc hd => ?_, ?_⟩
  · rw [Graph.parse, hd.checkGraph_ok_iff.2 ⟨all, hok, rfl⟩]
  · exact Node.forall_of_forall₂ (Form.checkNodesFrom_ok_iff.1 hok) fun v _ n hn =>
      Form.sound_of_checkNode hn

/-- Parts that are within a scope are put together alike, whatever was added to the objects. -/
theorem eachFrom_kept {all : List Form.NodeParts} (hq : h.Holds q) (hall : Within q all)
    (hk : h.Kept g) : Matches .same q (Node.eachFrom (Node.ofParts h) 0 all)
      (Node.eachFrom (Node.ofParts g) 0 all) := by
  have hm : Objects.Mirrors .same q h g := hq.mirrors.kept (.refl h) hk
  have hparts := Node.eachFrom_rename (fun n hn => Node.ofParts_rename hm hn) hall 0
  rwa [Carries.same] at hparts

/-- A document that lists the records is refused with them, or has the nodes that they have. -/
theorem Asks.graph_parse (ha : Asks h req e records world limit) (hq : h.Holds q)
    {all : List Form.NodeParts} (hall : Form.checkNodesFrom h .request 0 records = .ok all)
    (hw : Within q all) (hk : h.Kept g) {r : Except Fault (List Node)}
    (hr : Node.eachFrom (Node.ofParts g) 0 all = r) {g' : Objects} (hg : g.Kept g') {doc : Value}
    (hd : Graph.Lists g' doc e records) :
    match r with
    | .ok nodes => Graph.parse g' doc = .ok ⟨nodes, e, none⟩
    | .error f => ∃ f', Graph.parse g' doc = .error f' ∧ f.Alike f' := by
  have hmatches := eachFrom_kept (hq.kept hk) hw hg
  rw [hr] at hmatches
  rw [(ha.parsed_of_ok (hk.trans hg) hall).2.1 doc hd]
  obtain ⟨nodes, rfl, hn, -⟩ | ⟨f, f', rfl, hf', halike⟩ := hmatches.split
  · rw [Carries.same] at hn
    exact Graph.ofParts_of_nodes hn
  · exact ⟨f', Graph.ofParts_of_nodes hf', halike⟩

theorem Asks.within_parts (ha : Asks h req e records world limit) (hq : h.Holds q)
    (hreq : Within q req) {all : List Form.NodeParts}
    (hall : Form.checkNodesFrom h .request 0 records = .ok all) : Within q all := by
  have hrecords := (ha.of_hereditary hq.hereditary hreq).2
  obtain ⟨_, he, -, hw⟩ | ⟨_, he, -⟩ :=
    (Form.checkNodesFrom_rename hq.mirrors .request hrecords 0).split
  · cases hall.symm.trans he
    exact hw
  · cases hall.symm.trans he

theorem Asks.submits (ha : Asks h req e records world limit) (hq : h.Holds q) (hreq : Within q req)
    (hc : Ceiling.ofScalar (.int ((limit.map Int.ofNat).getD settings.maxSteps)) = .ok ceiling)
    (turns : Nat) : Interpreter.Submits ⟨.builtIn, .full, ceiling⟩ turns e records
      ⟨(Origin.value world).opened h, .empty⟩
      ((checkRun h req).map (handle settings turns h)) := by
  have hk : h.Kept ((Origin.value world).opened h).objects := Document.kept_adopt world h
  cases hall : Form.checkNodesFrom h .request 0 records with
  | error vs =>
    obtain ⟨hrefused, violations, hcheck⟩ := ha.refused_of_error hall
    obtain ⟨⟨f, hf⟩, -⟩ := hrefused _ hk
    refine .refused hf (fun g doc hg => (hrefused g (hk.trans hg)).2 doc)
      (Interpreter.run_of_records_error hf turns) (.inl ⟨violations, ?_⟩)
    rw [hcheck]
    rfl
  | ok all =>
    obtain ⟨hparse, -, hsound⟩ := ha.parsed_of_ok hk hall
    have hwithin : Within q (RunParts.nodes ⟨e, all, some world, limit.map Int.ofNat⟩) :=
      ha.within_parts hq hreq hall
    have hworld := (ha.of_hereditary hq.hereditary hreq).1
    obtain ⟨hok, herror⟩ := reports_parts hq hworld hwithin hsound rfl hc turns
    rw [ha.checkRun_ok_iff.2 ⟨all, hall, rfl⟩]
    cases he : Node.eachFrom (Node.ofParts ((Origin.value world).opened h).objects) 0 all with
    | error f =>
      have hf := hparse.trans he
      have hgraph {g : Objects} {doc : Value} (hg : Objects.Kept _ g)
          (hd : Graph.Lists g doc e records) := ha.graph_parse hq hall hwithin hk he hg hd
      refine .refused hf (fun g doc hg hd => ?_) (Interpreter.run_of_records_error hf turns)
        (.inr ⟨fun _ _ hg hd => hgraph hg hd, _, rfl, herror f he⟩)
      obtain ⟨f', hf', -⟩ := hgraph hg hd
      exact ⟨f', hf'⟩
    | ok nodes =>
      have hnodes := hparse.trans he
      have hagain := Node.parseAll_source ((Origin.value world).opened h).objects nodes
      exact .accepted hnodes hagain (fun _ _ hg hd => ha.graph_parse hq hall hwithin hk he hg hd)
        (Interpreter.run_congr (hnodes.trans hagain.symm) turns) rfl (hok nodes he)

/-- Records that are submitted as they are, parsed one by one, parsed with a graph document, or
handled with a request over a world, are all refused or all run alike. -/
theorem ways_agree (settings : Settings) (e : Int) (nodes : List Json)
    (world : List (Text × Json)) (limit : Option Nat)
    (hread : (request e nodes world limit).Every Scalar.Unmarked)
    (hc : Ceiling.ofScalar (.int ((limit.map Int.ofNat).getD settings.maxSteps)) = .ok ceiling)
    (turns : Nat) :
    let loaded := Objects.empty.load (request e nodes world limit)
    ∃ records w, Asks loaded.2 loaded.1 e records w limit ∧
      Graph.Lists ((Origin.value w).opened loaded.2).objects loaded.1 e records ∧
      Interpreter.Submits ⟨.builtIn, .full, ceiling⟩ turns e records
        ⟨(Origin.value w).opened loaded.2, .empty⟩
        ((checkRun loaded.2 loaded.1).map (handle settings turns loaded.2)) := by
  obtain ⟨records, w, ha⟩ := asks_request e nodes world limit
  obtain ⟨q, hq, hreq⟩ := Objects.holds_load hread
  exact ⟨records, w, ha, ha.lists (Document.kept_adopt w _), ha.submits hq hreq hc turns⟩

def posted : Json :=
  request 0 [.object [(↑"type", .text "world.set"), (↑"parameters", .object [(↑"path",
    .text "/a/b"), (↑"value", .bool true)])]] [(↑"c", .array [])] none

def Outcome.isReturned : Outcome → Bool
  | .returned _ => true
  | .raised _ _ => false

def handledPosted : Checked (Option (Outcome × Store)) :=
  (checkRun (Objects.empty.load posted).2 (Objects.empty.load posted).1).map
    (handle Settings.defaults 2 (Objects.empty.load posted).2)

theorem ways_agree_posted :
    posted.Every Scalar.Unmarked ∧ Ceiling.ofScalar (.int 0) = .ok none ∧
      ∃ records w,
        Asks (Objects.empty.load posted).2 (Objects.empty.load posted).1 0 records w none ∧
        ∃ nodes o, Node.parseAll ((Origin.value w).opened (Objects.empty.load posted).2).objects
            (.list (records.map .record)) = .ok nodes ∧
          handledPosted = .ok o ∧ o.map (·.1.isReturned) = some true ∧
          Reports (Interpreter.builtIn.run 2 (.int 0) (.list (nodes.map Node.source))
            ⟨(Origin.value w).opened (Objects.empty.load posted).2, .empty⟩) o := by
  have hread : posted.Every Scalar.Unmarked := by
    simp [posted, request, limitField, Json.every_scalar_iff, Json.every_array_iff,
      Json.every_object_iff, Scalar.Unmarked]
  have hc : Ceiling.ofScalar (.int 0) = .ok none := rfl
  have hreturned : handledPosted.toOption.map (·.map (·.1.isReturned)) = some (some true) := by
    decide +kernel
  obtain ⟨records, w, ha, -, hsubmits⟩ := ways_agree Settings.defaults 0 _ _ none hread hc 2
  change Interpreter.Submits _ _ _ _ _ handledPosted at hsubmits
  refine ⟨hread, hc, records, w, ha, ?_⟩
  cases hsubmits with
  | accepted parsed _ _ _ handler reports =>
    rw [handler] at hreturned
    exact ⟨_, _, parsed, handler, Option.some.inj hreturned, reports⟩
  | refused _ _ _ handler =>
    obtain ⟨violations, handler⟩ | ⟨-, o, handler, hreports⟩ := handler
    · rw [handler] at hreturned
      cases hreturned
    · rw [handler] at hreturned
      cases hreports <;> cases hreturned

end Service
end NodeWalk
