import NodeWalk.Proofs.FailedRun
import NodeWalk.Proofs.Received
import NodeWalk.Proofs.StepCeiling

set_option autoImplicit false

/-!
# What a run reads

At every point of a run the record holds what the evaluations so far have put out
last, and the node that is evaluated next is given just that. A run stops at an
unresolved reference exactly if the reference is to what was not put out, unless a
behavior raises such a fault of its own.
-/
namespace NodeWalk

theorem Fault.eq_unresolved_of_settled {f : Fault} {node socket : Scalar}
    {parameter : Option Text} (h : f.settled = .unresolved node socket parameter) :
    f = .unresolved node socket parameter := by
  unfold settled at h
  split at h
  · exact h
  · cases h

namespace Interpreter

open Node (Evaluation)

def HasRoom (i : Interpreter) (steps : Nat) : Prop :=
  ∀ limit, i.ceiling = some limit → Ceiling.reached limit steps = false

/-- The value that is next names a node that is about to be evaluated: there is room
below the ceiling, and there is a behavior for the type of the node. -/
structure Evaluates (i : Interpreter) (nodes : List Node) (steps : Nat) (current : Value)
    (index : Nat) (n : Node) (b : Registered) : Prop where
  room : i.HasRoom steps
  node : find? nodes current = some (index, n)
  behavior : ∃ type, n.type = .text type ∧ Node.Visit.Finds i.registry ⟨index, type⟩ b

variable {i : Interpreter} {nodes : List Node} {steps index : Nat} {current entry c : Value}
  {n : Node} {b : Registered} {es : List Evaluation} {s s₁ t u : Session}
  {node socket : Scalar} {parameter : Option Text}

theorem run_checkCeiling (h : i.HasRoom steps) (current : Value) (t : Store) :
    (i.checkCeiling steps current).run t = (.ok (), t) := by
  unfold checkCeiling
  cases hl : i.ceiling with
  | none => rfl
  | some limit =>
    dsimp only
    rw [h limit hl]
    rfl

theorem checkCeiling_error (h : ¬ i.HasRoom steps) (current : Value) (t : Store) :
    ∃ f u, (i.checkCeiling steps current).run t = (.error f, u) ∧
      ∀ node socket parameter, f ≠ .unresolved node socket parameter := by
  simp only [HasRoom, not_forall, Bool.not_eq_false] at h
  obtain ⟨limit, hl, hr⟩ := h
  unfold checkCeiling
  rw [hl]
  dsimp only
  rw [if_pos hr, run_bind, StoreM.run_plain]
  cases t.objects.plain? (.scalar limit) with
  | none => exact ⟨_, _, rfl, fun _ _ _ h => nomatch h⟩
  | some shown =>
    dsimp only
    rw [run_bind, StoreM.run_plain]
    cases t.objects.plain? current with
    | none => exact ⟨_, _, rfl, fun _ _ _ h => nomatch h⟩
    | some next =>
      exact ⟨_, _, rfl, fun _ _ _ h => nomatch Fault.eq_unresolved_of_settled h⟩

theorem Evaluates.run_approachOn (h : i.Evaluates nodes steps current index n b) (r : Record)
    (t : Store) : (i.approachOn nodes steps current r).run t =
      (Node.prepare i.registry i.access r index n).run t := by
  have hn : (nodeAt nodes current).run t = (.ok (index, n), t) := by
    rw [run_nodeAt, h.node]
  rw [approachOn, run_bind_ok (run_checkCeiling h.room current t), run_bind_ok hn]

theorem Evaluates.given (h : i.Evaluates nodes steps current index n b)
    (hv : View nodes es t.record) (hn : n.Read) (hm : missing es n.parameters = none) :
    ∃ v u ps, (i.approach nodes steps current).run t = (.ok v, u) ∧ v.visit.index = index ∧
      v.behavior = b ∧ u.store.objects.entries? v.call.parameters = some ps ∧
      List.Forall₂ (Given es t.store.objects u.store.objects) n.parameters ps := by
  obtain ⟨type, htype, hb⟩ := h.behavior
  obtain ⟨v, u, ps, hr, hvisit, hbehavior, hentries, hall⟩ :=
    Node.prepare_given hv hn htype hb hm i.access t.store
  refine ⟨v, ⟨u, t.record⟩, ps, ?_, by rw [hvisit], hbehavior, hentries, hall⟩
  rw [run_approach, h.run_approachOn, hr]

theorem Evaluates.missing (h : i.Evaluates nodes steps current index n b)
    (hv : View nodes es t.record) (hn : n.Read) {name : Text} {j : Int} {x : Text}
    (hm : missing es n.parameters = some (name, j, x)) :
    ∃ u, (i.approach nodes steps current).run t =
      (.error (.unresolved (.int j) (.text x) (some name)), u) := by
  obtain ⟨type, htype, hb⟩ := h.behavior
  obtain ⟨u, hr⟩ := Node.prepare_missing hv hn htype hb hm i.access t.store
  exact ⟨_, by rw [run_approach, h.run_approachOn, hr]⟩

theorem evaluates_of_unresolved (hv : View nodes es t.record) (hread : ∀ n ∈ nodes, n.Read)
    (h : (i.approach nodes steps current).run t =
      (.error (.unresolved node socket parameter), u)) :
    ∃ index n b name j x, i.Evaluates nodes steps current index n b ∧
      NodeWalk.missing es n.parameters = some (name, j, x) ∧
      node = .int j ∧ socket = .text x ∧ parameter = some name := by
  have hon : ((i.approachOn nodes steps current t.record).run t.store).1 =
      .error (.unresolved node socket parameter) := by
    rw [run_approach] at h
    exact congrArg Prod.fst h
  by_cases hroom : i.HasRoom steps
  · rw [approachOn, run_bind_ok (run_checkCeiling hroom current t.store), run_bind,
      run_nodeAt] at hon
    cases hf : find? nodes current with
    | none =>
      rw [hf] at hon
      cases Fault.eq_unresolved_of_settled (Except.error.inj hon)
    | some p =>
      obtain ⟨index, n⟩ := p
      rw [hf] at hon
      dsimp only at hon
      have hn := hread n (List.mem_of_getElem? (find?_eq_some_iff.1 hf).2)
      obtain ⟨type, htype⟩ := hn.type
      by_cases hb : ∃ b, Node.Visit.Finds i.registry ⟨index, type⟩ b
      · obtain ⟨b, hb⟩ := hb
        have hev : i.Evaluates nodes steps current index n b := ⟨hroom, hf, type, htype, hb⟩
        cases hm : NodeWalk.missing es n.parameters with
        | none =>
          obtain ⟨_, _, _, hok, -⟩ := hev.given hv hn hm
          cases h.symm.trans hok
        | some p =>
          obtain ⟨name, j, x⟩ := p
          obtain ⟨_, herror⟩ := hev.missing hv hn hm
          cases h.symm.trans herror
          exact ⟨index, n, b, name, j, x, hev, hm, rfl, rfl, rfl⟩
      · rw [Node.run_prepare_unknown htype fun b hf => hb ⟨b, hf⟩] at hon
        cases Fault.eq_unresolved_of_settled (Except.error.inj hon)
  · obtain ⟨f, _, hc, hf⟩ := checkCeiling_error hroom current t.store
    rw [approachOn, run_bind_error hc] at hon
    exact absurd (Except.error.inj hon) (hf _ _ _)

theorem raised_of_turn (h : (i.turn nodes steps current).run t =
      (.error (.unresolved node socket parameter), u)) :
    (i.approach nodes steps current).run t = (.error (.unresolved node socket parameter), u) ∨
    ∃ v w, (i.approach nodes steps current).run t = (.ok v, w) ∧
      ((v.behavior.behave v.call).run w.store).1 = .error (.unresolved node socket parameter) := by
  generalize hf : Fault.unresolved node socket parameter = f at h ⊢
  cases failure_of_turn h with
  | approach _ _ uncalled => exact .inl (uncalled i.registry fun _ => rfl)
  | raised approach behaves _ _ => exact .inr ⟨_, _, approach, congrArg Prod.fst behaves⟩
  | unusable _ _ _ _ _ => cases hf
  | unwritable _ _ _ _ _ _ => cases hf

theorem turn_of_stops {turns k : Nat} {f : Fault}
    (course : Course i nodes entry s es c t) (hs : Stops i nodes entry s turns (.failed k f) u)
    (hk : es.length = k) : (i.turn nodes es.length c).run t = (.error f, u) := by
  generalize he : Ending.failed k f = e at hs
  cases hs with
  | halted _ _ => cases he
  | unfinished _ _ _ => cases he
  | failed course' _ _ turn =>
    cases he
    obtain ⟨rfl, rfl, rfl⟩ := course'.unique course hk.symm
    exact turn

/-- The nodes of a run have the parameters of the records they were submitted as. At every
point of the run, what is recorded under the key of a socket is what the latest evaluation
that put it out put there, and nothing else is recorded. The node
that is evaluated next is given its parameters in their order: each literal as a copy,
each reference as the very value that was put out last. If something that it refers to
was not put out, the run stops with the first such reference; and it stops with an
unresolved reference only so, or if the behavior itself raises that fault. -/
theorem run_reads (i : Interpreter) {submitted : Submission} (entry c : Value)
    (records : submitted.OfRecords s.store.objects)
    (started : (start entry submitted).run s = (.ok nodes, s₁))
    (course : Course i nodes entry s₁ es c t) :
    (∃ sources, Node.sources s.store.objects submitted = .ok sources ∧
      List.Forall₂ (Node.ReadFrom s.store.objects) sources nodes) ∧
    ((∀ j x v, (Record.nodeKey j x, v) ∈ t.record.entries ↔ latest es j x = some v) ∧
      (∀ e ∈ t.record.entries, ∃ j x, e.1 = Record.nodeKey j x ∧ j < nodes.length) ∧
      (t.record.entries.map (·.1)).Nodup) ∧
    (∀ index n b, i.Evaluates nodes es.length c index n b → missing es n.parameters = none →
      ∃ v u ps, (i.approach nodes es.length c).run t = (.ok v, u) ∧ v.visit.index = index ∧
        v.behavior = b ∧ u.store.objects.entries? v.call.parameters = some ps ∧
        List.Forall₂ (Given es t.store.objects u.store.objects) n.parameters ps) ∧
    (∀ index n b name j x, i.Evaluates nodes es.length c index n b →
      missing es n.parameters = some (name, j, x) → ∃ u, ∀ turns, es.length < turns →
        i.run turns entry submitted s =
          (.failed es.length (.unresolved (.int j) (.text x) (some name)), u)) ∧
    ∀ turns node socket parameter u, i.run turns entry submitted s =
        (.failed es.length (.unresolved node socket parameter), u) →
      (∃ index n b name j x, i.Evaluates nodes es.length c index n b ∧
        missing es n.parameters = some (name, j, x) ∧
        node = .int j ∧ socket = .text x ∧ parameter = some name) ∨
      ∃ v w, (i.approach nodes es.length c).run t = (.ok v, w) ∧
        ((v.behavior.behave v.call).run w.store).1 =
          .error (.unresolved node socket parameter) := by
  obtain ⟨hparse, -, text, hs₁⟩ := start_ok started
  have hview := course_view (congrArg Session.record hs₁) course
  have hread := Node.read_of_parseAll records hparse
  have hnode {index : Nat} {n : Node} {b : Registered}
      (hev : i.Evaluates nodes es.length c index n b) : n.Read :=
    hread n (List.mem_of_getElem? (find?_eq_some_iff.1 hev.node).2)
  refine ⟨Node.readFrom_of_parseAll records hparse,
    ⟨fun j x v => hview.mem_iff, hview.key, hview.once⟩,
    fun index n b hev hm => hev.given hview (hnode hev) hm,
    fun index n b name j x hev hm => ?_, fun turns node socket parameter u hr => ?_⟩
  · obtain ⟨u, hu⟩ := hev.missing hview (hnode hev) hm
    have hturn : (i.turn nodes es.length c).run t =
        (.error (.unresolved (.int j) (.text x) (some name)), u) := by
      rw [run_turn, hu]
    have hgoes : c ≠ .null := by
      rw [(find?_eq_some_iff.1 hev.node).1]
      exact fun hc => nomatch hc
    exact ⟨u, fun turns hl => run_of_stops started (.failed course hgoes hl hturn)⟩
  · obtain ⟨w, hw, hc⟩ := stops_of_run started hr
    cases hc
    obtain happroach | hraised := raised_of_turn (turn_of_stops course hw rfl)
    · exact .inl (evaluates_of_unresolved hview hread happroach)
    · exact .inr hraised

def doubling : Json :=
  .array [
    .object [("type", .text "math.const"), ("parameters", .object [("value", .int 5)]),
      ("flow", .object [("next", .int 1)])],
    .object [("type", .text "math.double"),
      ("parameters", .object [("x", .object [("$node", .int 0), ("socket", .text "out")])])]]

def graphOf (j : Json) : Submission := .value (Objects.empty.load j).1

def sessionOf (j : Json) : Session := ⟨⟨(Objects.empty.load j).2, .null, #[]⟩, .empty⟩

def doublingNodes : List Node :=
  [⟨.text "math.const", [("value", .literal (.int 5))], .entries [("next", .int 1)]⟩,
   ⟨.text "math.double", [(↑"x", .reference (.int 0) (.text "out"))], .entries []⟩]

theorem every_doubling : doubling.Every Scalar.Writable := by
  have h₀ : Numeral.writable 0 = true := by decide +kernel
  have h₁ : Numeral.writable 1 = true := by decide +kernel
  have h₅ : Numeral.writable 5 = true := by decide +kernel
  simp [doubling, Json.every_array_iff, Json.every_object_iff, Json.every_scalar_iff,
    Scalar.Writable, h₀, h₁, h₅]

def doublingStarted : Session :=
  ((start (.int 0) (graphOf doubling)).run (sessionOf doubling)).2

theorem run_reads_doubling :
    (start (.int 0) (graphOf doubling)).run (sessionOf doubling) =
      (.ok doublingNodes, doublingStarted) ∧
    ∃ e t v u, Course builtIn doublingNodes (.int 0) doublingStarted [e] (.int 1) t ∧
      (builtIn.approach doublingNodes 1 (.int 1)).run t = (.ok v, u) ∧
      u.store.objects.entries? v.call.parameters = some [(↑"x", .int 5)] := by
  have hnodes : ((start (.int 0) (graphOf doubling)).run (sessionOf doubling)).1 =
      .ok doublingNodes :=
    ok_of_toOption (by decide +kernel)
  have hstart : (start (.int 0) (graphOf doubling)).run (sessionOf doubling) =
      (.ok doublingNodes, doublingStarted) := by
    rw [doublingStarted, ← hnodes, Prod.mk.eta]
  have hturn : (((builtIn.turn doublingNodes 0 (.int 0)).run doublingStarted).1.map fun e =>
      (e.index, e.output.result, e.output.next)) = .ok (0, [("out", .int 5)], .int 1) :=
    ok_of_toOption (by decide +kernel)
  refine ⟨hstart, ?_⟩
  cases hr : (builtIn.turn doublingNodes 0 (.int 0)).run doublingStarted with
  | mk turned t =>
    rw [hr] at hturn
    cases turned with
    | error f => cases hturn
    | ok e =>
      have he := Except.ok.inj hturn
      have hindex : e.index = 0 := congrArg (·.1) he
      have hresult : e.output.result = [(↑"out", .int 5)] := congrArg (·.2.1) he
      have hnext : e.output.next = .int 1 := congrArg (·.2.2) he
      have hput : put [e] 0 "out" = some (.int 5) := by
        simp [put, latest, hindex, hresult, Entries.last?]
      have hfirst : Course builtIn doublingNodes (.int 0) doublingStarted [] (.int 0)
          doublingStarted := .start
      have hcourse := hfirst.next (by simp) hr
      rw [hnext, List.nil_append] at hcourse
      have hev : builtIn.Evaluates doublingNodes 1 (.int 1) 1
          ⟨.text "math.double", [(↑"x", .reference (.int 0) (.text "out"))], .entries []⟩
          BuiltIn.double :=
        { room := by simp [HasRoom, builtIn]
          node := by decide +kernel
          behavior :=
            ⟨"math.double", rfl, ("math", "double"), ok_of_toOption (by decide +kernel), rfl⟩ }
      have hrecords : (graphOf doubling).OfRecords (sessionOf doubling).store.objects :=
        Objects.every_load every_doubling .empty
      obtain ⟨-, -, hgiven, -, -⟩ := run_reads builtIn (.int 0) (.int 1) hrecords
        hstart hcourse
      obtain ⟨v, u, ps, hv, -, -, hentries, hall⟩ := hgiven 1 _ _ hev (by simp [missing, hput])
      refine ⟨e, t, v, u, hcourse, hv, ?_⟩
      obtain ⟨_, _, hx, hnil, rfl⟩ := List.forall₂_cons_left_iff.1 hall
      obtain rfl := List.forall₂_nil_left_iff.1 hnil
      cases hx with
      | reference hw =>
        cases hput.symm.trans hw
        exact hentries

end Interpreter
end NodeWalk
