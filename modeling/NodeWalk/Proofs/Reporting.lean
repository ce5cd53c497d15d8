import NodeWalk.Proofs.GroundedBuiltIn
import NodeWalk.Proofs.History
import NodeWalk.Proofs.OpenedDocument
import NodeWalk.Proofs.WritingRuns

set_option autoImplicit false

/-!
# What a run leaves can be reported

Over documents that were read, all values that a run comes by are grounded until a
`world.set` closes a loop: it is given a value that leads to the container it writes to.
Where no evaluation does that, the document that is left is finite and can be written
out, but for integers that are too long.
-/
namespace NodeWalk

open Node (Evaluation)

def Node.Grounded (n : Node) (h : Objects) : Prop :=
  ∀ p ∈ n.parameters, ∀ v, p.2 = .literal v → h.Grounded v

def Record.Grounded (r : Record) (h : Objects) : Prop := ∀ e ∈ r.entries, h.Grounded e.2

section

variable {r : Record} {h g : Objects} {n : Node} {t u : Store}

theorem Node.Grounded.kept (hn : n.Grounded h) (hk : h.Kept g) : n.Grounded g :=
  fun p hp v hv => (hn p hp v hv).kept hk

theorem Record.Grounded.kept (hr : r.Grounded h) (hk : h.Kept g) : r.Grounded g :=
  fun e he => (hr e he).kept hk

theorem Record.mem_of_find? {k : Key} {v : Value} {es : List (Key × Value)}
    (h : find? k es = some v) : ∃ l, (l, v) ∈ es := by
  induction es with
  | nil => cases h
  | cons e es ih =>
    unfold find? at h
    split at h
    · cases h
      exact ⟨e.1, List.mem_cons_self⟩
    · obtain ⟨l, hl⟩ := ih h
      exact ⟨l, List.mem_cons_of_mem _ hl⟩

theorem Parameter.grounded_of_resolve {p : Parameter} {name : Text} {w : Value}
    (hp : ∀ v, p = .literal v → t.objects.Grounded v) (hr : r.Grounded t.objects)
    (h : (p.resolve r name).run t = (.ok w, u)) : u.objects.Grounded w := by
  cases p with
  | literal v =>
    cases h
    exact (hp v rfl).copy
  | reference node socket =>
    unfold resolve at h
    rw [run_bind_ok (StoreM.run_objects t)] at h
    obtain ⟨key, t₁, hkey, hfind⟩ := ok_of_bind h
    obtain rfl : t = t₁ := by
      cases hparts : Key.ofValues t.objects (.text nodeEntity) node socket with
      | error f => rw [hparts] at hkey; cases hkey
      | ok k => rw [hparts] at hkey; cases hkey; rfl
    cases hv : Record.find? key r.entries with
    | none => rw [hv] at hfind; cases hfind
    | some v =>
      rw [hv] at hfind
      cases hfind
      obtain ⟨l, hl⟩ := Record.mem_of_find? hv
      exact hr _ hl

open Parameter in
theorem grounded_of_resolveEach {ps : List (Text × Parameter)} {vs : Entries Value}
    (hps : ∀ p ∈ ps, ∀ v, p.2 = .literal v → t.objects.Grounded v) (hr : r.Grounded t.objects)
    (h : (resolveEach (resolve r) ps).run t = (.ok vs, u)) : ∀ e ∈ vs, u.objects.Grounded e.2 := by
  induction ps generalizing t vs with
  | nil =>
    cases h
    exact List.forall_mem_nil _
  | cons p ps ih =>
    obtain ⟨hp, hothers⟩ := List.forall_mem_cons.1 hps
    obtain ⟨w, t₁, hw, h₁⟩ := ok_of_bind h
    obtain ⟨ws, t₂, hws, h₂⟩ := ok_of_bind h₁
    cases h₂
    have hk := Node.Visit.keeping_resolve r p.1 p.2 t
    rw [hw] at hk
    have hk' := Node.Visit.keeping_resolveEach (Node.Visit.keeping_resolve r) ps t₁
    rw [hws] at hk'
    refine List.forall_mem_cons.2 ⟨(grounded_of_resolve hp hr hw).kept hk'.toKept, ?_⟩
    exact ih (fun q hq v hv => (hothers q hq v hv).kept hk.toKept) (hr.kept hk.toKept) hws

theorem Node.Visit.grounded_of_call {access : Access} {ps : Entries Value} {c : Call}
    (hps : ∀ e ∈ ps, t.objects.Grounded e.2) (h : (Visit.call n access ps).run t = (.ok c, u)) :
    c.Grounded u.objects := by
  unfold Visit.call at h
  rw [run_bind_ok (StoreM.run_extend (Objects.newObject ps) t)] at h
  obtain ⟨entries, t₂, hentries, h₂⟩ := ok_of_bind h
  obtain ⟨flow, t₃, hflow, h₃⟩ := ok_of_bind h₂
  cases h₃
  -- The object of the parameters is grounded, and what is made after it keeps it.
  have hk := keeping_flowEntries n.flow { t with objects := (t.objects.newObject ps).2 }
  rw [hentries] at hk
  have hk' : t₂.objects.Kept u.objects := by
    cases hflow
    exact (Objects.kept_newObject _ _).trans (Objects.kept_copy _ _)
  have hgrounded := ((Objects.grounded_newObject hps).kept hk.toKept).kept hk'
  exact fun ps' hps' e he => (Objects.hereditary_grounded _).of_entry hgrounded hps' he

end

structure Session.Grounded (nodes : List Node) (t : Session) : Prop where
  root : t.store.objects.Grounded t.store.root
  record : t.record.Grounded t.store.objects
  nodes : ∀ n ∈ nodes, n.Grounded t.store.objects

def Call.Loops (c : Call) (x : Store) : Prop :=
  ∃ ps path, x.objects.entries? c.parameters = some ps ∧ Entries.get? "path" ps = some path ∧
    Document.Loops x path ((Entries.get? "value" ps).getD .null)

theorem BuiltIn.grounded_of_worldSet {c : Call} {reply : Reply} {s t : Store}
    (hroot : s.objects.Grounded s.root) (hc : c.Grounded s.objects) (hno : ¬ c.Loops s)
    (h : (worldSet.behave c).run s = (.ok reply, t)) :
    t.objects.Grounded t.root ∧ ∀ v, s.objects.Grounded v → t.objects.Grounded v := by
  obtain ⟨ps, path, u, hps, hpath, hset, hrest⟩ := exists_of_worldSet_ok h
  obtain ⟨hroot', hall⟩ := Document.grounded_of_set hset hroot (hc.get?_getD hps "value")
    fun hloops => hno ⟨ps, path, hps, hpath, hloops⟩
  refine ⟨?_, fun v hv => (hall v hv).kept hrest.toKept⟩
  rw [hrest.root]
  exact hroot'.kept hrest.toKept

theorem BuiltIn.not_acyclic_of_worldSet {c : Call} {reply : Reply} {s t : Store}
    (hroot : s.objects.Has s.root) (hloops : c.Loops s)
    (h : (worldSet.behave c).run s = (.ok reply, t)) : ¬ t.objects.Acyclic t.root := by
  obtain ⟨ps, path, u, hps, hpath, hset, hrest⟩ := exists_of_worldSet_ok h
  obtain ⟨ps', path', hps', hpath', hloops⟩ := hloops
  cases hps.symm.trans hps'
  cases hpath.symm.trans hpath'
  intro hacyclic
  rw [hrest.root] at hacyclic
  exact Document.not_acyclic_of_set hset hroot hloops
    (Objects.acyclic_of_kept hrest.toKept hacyclic)

namespace Interpreter

variable {i : Interpreter} {nodes : List Node} {steps : Nat} {current entry c : Value}
  {s t u x : Session} {v : Node.Invocation} {e : Evaluation} {es : List Evaluation}

theorem grounded_of_approach (hs : t.Grounded nodes)
    (h : (i.approach nodes steps current).run t = (.ok v, x)) :
    v.call.Grounded x.store.objects := by
  obtain ⟨n, t₁, hceiling, hfind, hprepare⟩ := approach_ok h
  obtain ⟨type, ps, t₂, -, -, -, hps, hcall⟩ := Node.prepare_ok hprepare
  have hk := keeping_checkCeiling i steps current t.store
  rw [hceiling] at hk
  have hn := hs.nodes n (List.mem_of_getElem? (find?_eq_some_iff.1 hfind).2)
  have hresolved := grounded_of_resolveEach (hn.kept hk.toKept) (hs.record.kept hk.toKept)
    (ok_of_rethrown hps)
  exact Node.Visit.grounded_of_call hresolved (ok_of_rethrown hcall)

def ClosesLoop (i : Interpreter) (nodes : List Node) (steps : Nat) (current : Value)
    (t : Session) : Prop :=
  ∃ v x e u, (i.approach nodes steps current).run t = (.ok v, x) ∧
    v.visit.type = "world.set" ∧ v.call.Loops x.store ∧
    (i.turn nodes steps current).run t = (.ok e, u) ∧
    ¬ u.store.objects.Acyclic u.store.root

/-- A completed turn over what is grounded leaves what is grounded, or it closes a loop. -/
theorem turn_grounded (hi : i.registry = .builtIn) (hs : t.Grounded nodes)
    (h : (i.turn nodes steps current).run t = (.ok e, u)) :
    u.Grounded nodes ∨ i.ClosesLoop nodes steps current t := by
  obtain ⟨v, x, w, next, hv, ha, -, -, hu⟩ := turn_ok h
  obtain ⟨-, hk⟩ := approach_keeps hv
  obtain ⟨n, -, -, hfinds⟩ := visits_of_approach hv
  obtain ⟨reply, hr, haccept⟩ := Node.Invocation.answer_ok ha
  rw [hi] at hfinds
  have hroot : x.store.objects.Grounded x.store.root := by
    rw [hk.root]
    exact hs.root.kept hk.toKept
  have hcall := grounded_of_approach hs hv
  have hreply : reply.Grounded w.objects := by
    obtain ⟨p, -, hb⟩ := hfinds
    exact BuiltIn.grounding_builtIn hb v.call x.store reply w hroot hcall hr
  have hleft (hrootw : w.objects.Grounded w.root)
      (hall : ∀ y, x.store.objects.Grounded y → w.objects.Grounded y) : u.Grounded nodes := by
    rw [hu]
    exact ⟨hrootw, Node.forall_recorded (fun e' he' => hall _ ((hs.record e' he').kept hk.toKept))
        (hreply _ haccept) _,
      fun m hm p hp y hy => hall _ ((hs.nodes m hm p hp y hy).kept hk.toKept)⟩
  obtain ⟨hset, hb⟩ | ⟨-, hkeeping⟩ := hfinds.eq_worldSet_or_keeping
  · rw [hb] at hr
    by_cases hloops : v.call.Loops x.store
    · refine .inr ⟨v, x, e, u, hv, hset, hloops, h, ?_⟩
      have hloop := BuiltIn.not_acyclic_of_worldSet hroot.has hloops hr
      rw [hu]
      exact hloop
    · obtain ⟨hrootw, hall⟩ := BuiltIn.grounded_of_worldSet hroot hcall hloops hr
      exact .inl (hleft hrootw hall)
  · have hkw := hkeeping v.call x.store
    rw [hr] at hkw
    refine .inl (hleft ?_ fun y hy => hy.kept hkw.toKept)
    rw [hkw.root]
    exact hroot.kept hkw.toKept

def LoopsWithin (i : Interpreter) (nodes : List Node) (entry : Value) (s : Session)
    (turns : Nat) : Prop :=
  ∃ es c t, Course i nodes entry s es c t ∧ es.length < turns ∧ i.ClosesLoop nodes es.length c t

theorem course_grounded (hi : i.registry = .builtIn) (hs : s.Grounded nodes)
    (h : Course i nodes entry s es c t) :
    t.Grounded nodes ∨ i.LoopsWithin nodes entry s es.length := by
  induction h with
  | start => exact .inl hs
  | @next es c t u e before goes turn ih =>
    rw [List.length_append, List.length_singleton]
    obtain ht | ⟨es', c', t', before', hlt, hcloses⟩ := ih
    · obtain hu | hcloses := turn_grounded hi ht turn
      · exact .inl hu
      · exact .inr ⟨es, c, t, before, Nat.lt_succ_self _, hcloses⟩
    · exact .inr ⟨es', c', t', before', Nat.lt_succ_of_lt hlt, hcloses⟩

end Interpreter

/-- The document is finite, so it is written, unless one of its integers is too long, and put into
a response, unless one of its texts has half of a surrogate pair besides. -/
structure Store.Reportable (s : Store) : Prop where
  grounded : s.objects.Grounded s.root
  finite : ∃ j : Json, s.objects.unfold s.root = j.unfolding
  fault : ∀ b, (s.objects.unfold s.root).write = .error b → b.error = .integerTooLong
  written : s.objects.Every Scalar.Writable s.root →
    ∃ text, (s.objects.unfold s.root).write = .ok text
  answered : s.objects.Every Scalar.Writable s.root →
    (s.objects.unfold s.root).EveryText (fun t => t.isWhole = true) →
      (Service.rendered? (some .null) (s.objects.unfold s.root)).isSome = true

theorem Objects.every_true (h : Objects) (v : Value) : h.Every (fun _ => True) v :=
  ⟨fun _ _ => trivial, fun _ _ _ _ => trivial⟩

theorem Objects.Grounded.writes {P : Scalar → Prop} {h : Objects} {v : Value} (hv : h.Grounded v)
    (hp : h.Every P v) : Unfolding.Writes P (h.unfold v).write := by
  obtain ⟨j, hj, hunfold⟩ := hv.exists_json hp
  rw [hunfold]
  exact Unfolding.writes_unfolding hj 0 "" ""

theorem Store.reportable_of_grounded {s : Store} (hs : s.objects.Grounded s.root) :
    s.Reportable where
  grounded := hs
  finite := by
    obtain ⟨j, -, hunfold⟩ := hs.exists_json (Objects.every_true _ _)
    exact ⟨j, hunfold⟩
  fault b hb := by
    have hw := hs.writes (Objects.every_true _ _)
    rw [hb] at hw
    exact hw.1
  written hp := by
    have hw := hs.writes hp
    cases htext : (s.objects.unfold s.root).write with
    | ok text => exact ⟨text, rfl⟩
    | error b =>
      rw [htext] at hw
      exact absurd (fun _ ha => ha) hw.2
  answered hp htexts := by
    obtain ⟨j, hj, hunfold⟩ := hs.exists_json hp
    rw [hunfold] at htexts ⊢
    exact Service.isSome_rendered? hj htexts

theorem Document.grounded_adopt {h : Objects} {v : Value} (hv : h.Grounded v) :
    (adopt v h).2.Grounded (adopt v h).1 := by
  unfold adopt
  split
  · exact Objects.grounded_newObject (List.forall_mem_nil _)
  · exact hv.copy

theorem Origin.grounded_tree (j : Json) (h : Objects) :
    h.Kept ((tree j).opened h).objects ∧
      ((tree j).opened h).objects.Grounded ((tree j).opened h).root := by
  obtain ⟨hk, hv⟩ := Objects.loads j h
  exact ⟨hk.trans (Document.kept_adopt _ _), Document.grounded_adopt hv⟩

theorem Unfolding.eq_error_of_mapError {r : Except Broken String}
    {b : WriteError} (h : r.mapError Broken.error = .error b) :
    ∃ broken, r = .error broken ∧ broken.error = b := by
  cases r with
  | ok text => cases h
  | error broken => exact ⟨broken, rfl, Except.error.inj h⟩

namespace Interpreter

variable {i : Interpreter} {nodes : List Node} {turns k : Nat} {entry : Value}
  {r : Record} {s u : Session}

/-- Over a grounded document and nodes with grounded literals, what a run leaves when it
halts can be reported, unless one of its turns closes a loop. -/
theorem reportable_of_run (hi : i.registry = .builtIn)
    (hroot : s.store.objects.Grounded s.store.root)
    (hnodes : ∀ n ∈ nodes, n.Grounded s.store.objects)
    (hr : i.run turns entry (.list (nodes.map Node.source)) s = (.halted k, u)) :
    u.store.Reportable ∨ ∃ s₁,
      (start entry (.list (nodes.map Node.source))).run s = (.ok nodes, s₁) ∧
        i.LoopsWithin nodes entry s₁ k := by
  cases hstart : (start entry (.list (nodes.map Node.source))).run s with
  | mk started s₁ =>
    cases started with
    | error f =>
      rw [run_of_start_error hstart] at hr
      cases hr
    | ok nodes' =>
      obtain ⟨hparse, -, text, hs₁⟩ := start_ok hstart
      obtain rfl := Except.ok.inj ((Node.parseAll_source _ nodes).symm.trans hparse)
      have hgrounded : s₁.Grounded nodes := by
        rw [hs₁]
        exact ⟨hroot, List.forall_mem_nil _, hnodes⟩
      obtain ⟨w, hstops, hconclude⟩ := stops_of_run hstart hr
      cases hstops with
      | halted course _ =>
        obtain hw | hloops := course_grounded hi hgrounded course
        · cases hconclude
          exact .inl (Store.reportable_of_grounded hw.root)
        · exact .inr ⟨s₁, rfl, hloops⟩

/-- The document that a run over documents leaves when it halts can be reported, unless a
`world.set` has been given a value that leads to the container it writes to. A response takes whole
texts, without a half of a surrogate pair; how deep the calls for a nested document may go is not
modelled. -/
theorem run_reported {graph world : Json} {h : Objects} {g : Graph} (hi : i.registry = .builtIn)
    (hg : Graph.parse (h.load graph).2 (h.load graph).1 = .ok g)
    (hr : i.run turns entry (.list (g.nodes.map Node.source))
      ⟨(Origin.tree world).opened (h.load graph).2, r⟩ = (.halted k, u)) :
    u.store.Reportable ∨ ∃ s₁, (start entry (.list (g.nodes.map Node.source))).run
        ⟨(Origin.tree world).opened (h.load graph).2, r⟩ = (.ok g.nodes, s₁) ∧
      i.LoopsWithin g.nodes entry s₁ k := by
  obtain ⟨-, hgraph⟩ := Objects.loads graph h
  obtain ⟨hk, hroot⟩ := Origin.grounded_tree world (h.load graph).2
  refine reportable_of_run hi hroot (fun n hn p hp v hv => Objects.Grounded.kept ?_ hk) hr
  exact Graph.literal_of_parse (Objects.hereditary_grounded _) hgraph hg n hn p hp v hv

/-- The document is read as a whole, and what was read is written into it. -/
def nesting : Json :=
  .array [.object [("type", .text "world.get"), ("parameters", .object [("path", .text "")]),
      ("flow", .object [("next", .int 1)])],
    .object [("type", .text "world.set"), ("parameters", .object [("path", .text "/x"),
      ("value", .object [("$node", .int 0), ("socket", .text "out")])])]]

def nestingNodes : List Node :=
  [⟨.text "world.get", [("path", .literal (.text ""))], .entries [("next", .int 1)]⟩,
    ⟨.text "world.set",
      [("path", .literal (.text "/x")), ("value", .reference (.int 0) (.text "out"))],
      .entries []⟩]

def nestingStart : Session :=
  ⟨(Origin.tree (.object [("a", .int 1)])).opened (Objects.empty.load nesting).2, .empty⟩

def nestingRun : Ending × Session :=
  builtIn.run 3 (.int 0) (.list (nestingNodes.map Node.source)) nestingStart

theorem write_nesting : ∃ b,
    (nestingRun.2.store.objects.unfold nestingRun.2.store.root).write = .error b ∧
      b.error = .circular := by
  apply Unfolding.eq_error_of_mapError
  decide +kernel

/-- The run halts, and what it leaves is neither written nor put into a response. -/
theorem nesting_unreported :
    nestingRun.1 = .halted 2 ∧
      (∃ b, (nestingRun.2.store.objects.unfold nestingRun.2.store.root).write = .error b ∧
        b.error = .circular) ∧
      Service.rendered? (some .null)
        (nestingRun.2.store.objects.unfold nestingRun.2.store.root) = none :=
  ⟨Ending.eq_halted (by decide +kernel), write_nesting,
    Option.isNone_iff_eq_none.1 (by decide +kernel)⟩

theorem run_reported_nesting :
    nestingRun.1 = .halted 2 ∧ ∃ s₁,
      (start (.int 0) (.list (nestingNodes.map Node.source))).run nestingStart =
        (.ok nestingNodes, s₁) ∧ builtIn.LoopsWithin nestingNodes (.int 0) s₁ 2 := by
  have hhalted : nestingRun.1 = .halted 2 := Ending.eq_halted (by decide +kernel)
  have hparse : Graph.parse (Objects.empty.load nesting).2 (Objects.empty.load nesting).1 =
      .ok ⟨nestingNodes, 0, none⟩ := ok_of_toOption (by decide +kernel)
  have hrun : builtIn.run 3 (.int 0) (.list (nestingNodes.map Node.source)) nestingStart =
      (.halted 2, nestingRun.2) := by rw [← hhalted, nestingRun]
  refine ⟨hhalted, (run_reported rfl hparse hrun).resolve_left fun hreported => ?_⟩
  obtain ⟨b, hb, hcircular⟩ := write_nesting
  rw [hreported.fault b hb] at hcircular
  cases hcircular

end Interpreter
end NodeWalk
