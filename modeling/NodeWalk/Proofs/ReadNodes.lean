import NodeWalk.Proofs.NodeForm
import NodeWalk.Proofs.ReadText

set_option autoImplicit false

/-!
# Nodes of records

A node that was read from a record has a text as its type and entries as its control
data. Its parameters are literals and references to an integer and a text, and the
integer can be written if all integers of the record can. A record that was loaded
from a text is such.
-/
namespace NodeWalk

/-- What a parameter of a record is read as. The index of a reference can be written. -/
inductive Parameter.Read : Parameter → Prop where
  | literal (v : Value) : Read (.literal v)
  | reference {j : Int} (short : Numeral.writable j = true) (x : Text) :
    Read (.reference (.int j) (.text x))

structure Node.Read (n : Node) : Prop where
  type : ∃ type, n.type = .text type
  parameters : ∀ p ∈ n.parameters, p.2.Read
  flow : ∃ entries, n.flow = .entries entries

/-- A parameter of a record and what it is read as: a reference where the value is an
object with the key `$node`, whatever may lie deeper in it, and otherwise a literal. -/
inductive Parameter.ReadFrom (h : Objects) : Text × Value → Text × Parameter → Prop where
  | literal {name : Text} {v : Value}
    (plain : ∀ es, h.entries? v = some es → Entries.get? "$node" es = none) :
    ReadFrom h (name, v) (name, .literal v)
  | reference {name : Text} {v : Value} {es : Entries Value} {j : Int} {x : Text}
    (entries : h.entries? v = some es) (node : Entries.get? "$node" es = some (.int j))
    (socket : Entries.get? "socket" es = some (.text x)) :
    ReadFrom h (name, v) (name, .reference (.int j) (.text x))

inductive Node.ReadFrom (h : Objects) : NodeSource → Node → Prop where
  | record {v : Value} {fields : Entries Value} {n : Node} (entries : h.entries? v = some fields)
    (parameters : List.Forall₂ (Parameter.ReadFrom h)
      (Value.entriesOfField h (Entries.get? "parameters" fields)) n.parameters) :
    ReadFrom h (.record v) n
  | node (n : Node) : ReadFrom h n.source n

/-- A record as it is loaded from a text, or a node that was read from one. -/
inductive NodeSource.OfRecord (h : Objects) : NodeSource → Prop where
  | record {v : Value} (hv : h.Every Scalar.Writable v) : OfRecord h (.record v)
  | node {n : Node} (hn : n.Read) : OfRecord h n.source

def Submission.OfRecords (h : Objects) : Submission → Prop
  | .list sources => ∀ x ∈ sources, x.OfRecord h
  | .value v => h.Every Scalar.Writable v

namespace Objects

variable {P : Scalar → Prop} {h : Objects} {v w : Value}

theorem Every.mono (hv : h.Every P v) (hw : ∀ a, w = .scalar a → P a)
    (hr : ∀ a ∈ w.refs, a ∈ h.reach v) : h.Every P w where
  self := hw
  inside b hb := hv.inside b (reach_subset (closed_reach h v) hr b hb)

theorem Every.of_mem {c : Cell} (hv : h.Every P v) (hc : h.find? v = some c) (hw : w ∈ c.values) :
    h.Every P w := by
  cases v with
  | scalar a => cases hc
  | ref b =>
    obtain rfl := Option.some.inj hc
    have hb : b ∈ h.reach (.ref b) := mem_reach_of_mem_refs (List.mem_singleton.2 rfl)
    refine hv.mono (fun a ha => hv.inside b hb a (ha ▸ hw)) fun a ha => ?_
    exact closed_reach h _ b hb a (List.mem_flatMap.2 ⟨w, hw, ha⟩)

/-- The items and entries of a container have the property that it has. -/
def Hereditary (h : Objects) (Q : Value → Prop) : Prop :=
  ∀ v c, Q v → h.find? v = some c → ∀ w ∈ c.values, Q w

theorem hereditary_every (P : Scalar → Prop) (h : Objects) : h.Hereditary (h.Every P) :=
  fun _ _ hv hc _ hw => hv.of_mem hc hw

namespace Hereditary

variable {Q : Value → Prop}

theorem of_entry {es : Entries Value} {k : Text} (hq : h.Hereditary Q) (hv : Q v)
    (hes : h.entries? v = some es) (hw : (k, w) ∈ es) : Q w := by
  unfold entries? at hes
  split at hes
  · rename_i es' hc
    obtain rfl := Option.some.inj hes
    exact hq v _ hv hc w (List.mem_map.2 ⟨_, hw, rfl⟩)
  · cases hes

theorem of_item {items : List Value} (hq : h.Hereditary Q) (hv : Q v)
    (hi : h.items? v = some items) (hw : w ∈ items) : Q w := by
  unfold items? at hi
  split at hi
  · rename_i items' hc
    obtain rfl := Option.some.inj hi
    exact hq v _ hv hc w hw
  · cases hi

theorem of_entriesOfField {fields : Entries Value} {k : Text} (hq : h.Hereditary Q) (hv : Q v)
    (hf : h.entries? v = some fields) :
    ∀ e ∈ Value.entriesOfField h (Entries.get? k fields), Q e.2 := by
  intro e he
  unfold Value.entriesOfField at he
  cases hk : Entries.get? k fields with
  | none => rw [hk] at he; cases he
  | some w =>
    rw [hk, Option.bind_some] at he
    cases hes : h.entries? w with
    | none => rw [hes] at he; cases he
    | some es =>
      rw [hes, Option.getD_some] at he
      exact hq.of_entry (hq.of_entry hv hf (Entries.mem_of_get? hk)) hes he

end Hereditary

end Objects

theorem Parameter.read_ofValue {h : Objects} {v : Value} {p : Parameter}
    (hv : h.Every Scalar.Writable v) (hp : ofValue h v = .ok p) : p.Read := by
  obtain ⟨es, n, x, hes, hn, -, -, rfl⟩ | ⟨-, rfl⟩ := ofValue_ok_iff.1 hp
  · have hindex := (Objects.hereditary_every _ h).of_entry hv hes (Entries.mem_of_get? hn)
    exact .reference (hindex.self _ rfl n rfl) x
  · exact .literal v

theorem Parameter.readFrom_of_ofValue {h : Objects} {v : Value} {p : Parameter} {name : Text}
    (hp : ofValue h v = .ok p) : ReadFrom h (name, v) (name, p) := by
  obtain ⟨es, n, x, hes, hn, hx, -, rfl⟩ | ⟨hno, rfl⟩ := ofValue_ok_iff.1 hp
  · exact .reference hes hn hx
  · exact .literal hno

namespace Node

theorem forall_of_forall₂ {α β : Type} {R : α → β → Prop} {P : β → Prop} {as : List α}
    {bs : List β} (h : List.Forall₂ R as bs) (hp : ∀ a ∈ as, ∀ b, R a b → P b) :
    ∀ b ∈ bs, P b := by
  induction h with
  | nil => exact List.forall_mem_nil _
  | cons hab _ ih =>
    obtain ⟨ha, has⟩ := List.forall_mem_cons.1 hp
    exact List.forall_mem_cons.2 ⟨ha _ hab, ih has⟩

theorem read_of_record {h : Objects} {v : Value} {n : Node} (hv : h.Every Scalar.Writable v)
    (hn : parse h (.record v) = .ok n) : n.Read := by
  obtain ⟨fields, type, hf, -, -, -, ht, hflow, hps⟩ := parse_record_ok_iff.1 hn
  refine ⟨⟨type, ht⟩, forall_of_forall₂ hps fun d hd p htag => ?_, ⟨_, hflow⟩⟩
  obtain ⟨e, he, rfl⟩ := List.mem_map.1 hd
  exact Parameter.read_ofValue ((Objects.hereditary_every _ h).of_entriesOfField hv hf e he) htag.2

theorem literal_of_record {h : Objects} {Q : Value → Prop} (hq : h.Hereditary Q) {v : Value}
    {n : Node} (hv : Q v) (hn : parse h (.record v) = .ok n) :
    ∀ p ∈ n.parameters, ∀ x, p.2 = .literal x → Q x := by
  obtain ⟨fields, type, hf, -, -, -, -, -, hps⟩ := parse_record_ok_iff.1 hn
  refine forall_of_forall₂ hps fun d hd p htag x hx => ?_
  obtain ⟨e, he, rfl⟩ := List.mem_map.1 hd
  obtain ⟨es, n, y, -, -, -, -, hp⟩ | ⟨-, hp⟩ := Parameter.ofValue_ok_iff.1 htag.2
  · cases hp.symm.trans hx
  · cases hp.symm.trans hx
    exact hq.of_entriesOfField hv hf e he

theorem eq_of_source {h : Objects} {m n : Node} (hn : parse h m.source = .ok n) : n = m := by
  obtain ⟨ht, hf, hp⟩ := build_ok_iff.1 hn
  obtain ⟨type, parameters, flow⟩ := n
  obtain rfl : type = m.type := ht
  obtain rfl : flow = m.flow := hf
  have heq : List.Forall₂ (· = ·) m.parameters parameters :=
    (List.forall₂_map_left_iff.1 hp).imp fun p q htag =>
      Prod.ext htag.1.symm (Except.ok.inj htag.2)
  rw [List.forall₂_eq_eq_eq] at heq
  rw [← heq]

theorem parse_source (h : Objects) (n : Node) : parse h n.source = .ok n :=
  build_ok_iff.2 ⟨rfl, rfl, List.forall₂_map_left_iff.2
    (List.forall₂_same.2 fun _ _ => ⟨rfl, rfl⟩)⟩

theorem parseAll_source (h : Objects) (nodes : List Node) :
    parseAll h (.list (nodes.map source)) = .ok nodes := by
  simp only [parseAll, sources, bind, Except.bind]
  exact eachFrom_ok_iff.2 (List.forall₂_map_left_iff.2
    (List.forall₂_same.2 fun n _ => parse_source h n))

theorem records_of_sources {h : Objects} {v : Value} {sources : List NodeSource}
    (hv : h.Every Scalar.Writable v) (hs : Node.sources h (.value v) = .ok sources) :
    ∀ x ∈ sources, x.OfRecord h := by
  have of_texts (as : List Text) (hm : (Except.ok (as.map fun x => NodeSource.record (.text x)) :
      Except Fault _) = .ok sources) : ∀ x ∈ sources, x.OfRecord h := by
    cases hm
    refine List.forall_mem_map.2 fun x _ => .record ?_
    exact ⟨fun a ha n hn => (by cases ha; cases hn), fun b hb => nomatch hb⟩
  cases v with
  | ref a =>
    simp only [Node.sources, Objects.find?] at hs
    cases hc : h.cell a with
    | array items =>
      rw [hc] at hs
      cases hs
      have hf : h.find? (.ref a) = some (.array items) := congrArg some hc
      exact List.forall_mem_map.2 fun w hw => .record (hv.of_mem hf hw)
    | object entries =>
      rw [hc] at hs
      exact of_texts entries.keys hs
  | scalar b =>
    cases b with
    | text x =>
      refine of_texts (x.points.map fun c => ⟨[c]⟩) ?_
      rw [List.map_map]
      exact hs
    | _ => cases hs

theorem records_of_submission {h : Objects} {submitted : Submission} {sources : List NodeSource}
    (hs : submitted.OfRecords h) (hsources : Node.sources h submitted = .ok sources) :
    ∀ x ∈ sources, x.OfRecord h := by
  cases submitted with
  | list sources' =>
    cases hsources
    exact hs
  | value v => exact records_of_sources hs hsources

theorem read_of_parseAll {h : Objects} {submitted : Submission} {nodes : List Node}
    (hs : submitted.OfRecords h) (hp : parseAll h submitted = .ok nodes) :
    ∀ n ∈ nodes, n.Read := by
  obtain ⟨sources, hsources, hall⟩ := parsed_of_parseAll hp
  refine forall_of_forall₂ hall fun x hx n hn => ?_
  cases records_of_submission hs hsources x hx with
  | record hv => exact read_of_record hv hn
  | node hm => exact eq_of_source hn ▸ hm

theorem readFrom_of_parse {h : Objects} {x : NodeSource} {n : Node} (hx : x.OfRecord h)
    (hn : parse h x = .ok n) : ReadFrom h x n := by
  cases hx with
  | node hm =>
    rw [eq_of_source hn]
    exact .node _
  | record hv =>
    obtain ⟨fields, -, hf, -, -, -, -, -, hps⟩ := parse_record_ok_iff.1 hn
    refine .record hf ((List.forall₂_map_left_iff.1 hps).imp fun e p htag => ?_)
    obtain ⟨name, v⟩ := e
    obtain ⟨name', p⟩ := p
    obtain rfl : name' = name := htag.1
    exact Parameter.readFrom_of_ofValue htag.2

theorem readFrom_of_parseAll {h : Objects} {submitted : Submission} {nodes : List Node}
    (hs : submitted.OfRecords h) (hp : parseAll h submitted = .ok nodes) :
    ∃ sources, Node.sources h submitted = .ok sources ∧
      List.Forall₂ (ReadFrom h) sources nodes := by
  obtain ⟨sources, hsources, hall⟩ := parsed_of_parseAll hp
  have hrec := records_of_submission hs hsources
  refine ⟨sources, hsources, ?_⟩
  exact ((List.forall₂_and_left _ _).2 ⟨hrec, hall⟩).imp fun _ _ hx => readFrom_of_parse hx.1 hx.2

end Node

theorem Submission.ofRecords_load {cs : List Char} {j : Json} (hj : Json.read cs = .ok j)
    (h : Objects) : (Submission.value (h.load j).1).OfRecords (h.load j).2 :=
  Objects.every_load ((Json.every_read hj).imp fun _ ha => ha.writable) h

namespace Graph

variable {h : Objects} {v : Value} {g : Graph}

theorem parsed_of_checked {items : List Value} {parts : List Form.NodeParts} {nodes : List Node}
    (hc : List.Forall₂ (fun w p => Form.checkNode h .node w = .ok p) items parts)
    (hp : List.Forall₂ (fun p n => Node.ofParts h p = .ok n) parts nodes) :
    List.Forall₂ (fun w n => Node.parse h (.record w) = .ok n) items nodes := by
  induction hc generalizing nodes with
  | nil =>
    cases hp
    exact .nil
  | cons hw _ ih =>
    obtain ⟨n, ns, hn, hns, rfl⟩ := List.forall₂_cons_left_iff.1 hp
    exact .cons (by rw [Node.parse, hw]; exact hn) (ih hns)

theorem ofFields_ok {fields : Entries Value} {parts : Form.GraphParts}
    (hc : Form.checkGraph.ofFields h fields = .ok parts) :
    ∃ w items, Entries.get? "nodes" fields = some w ∧ h.items? w = some items ∧
      Form.checkNodesFrom h .node 0 items = .ok parts.nodes := by
  obtain ⟨p, hb, rfl⟩ := map_ok_iff.1 hc
  have hn := Checked.within_ok_iff.1 (Checked.both_ok_iff.1 (Checked.both_ok_iff.1 hb).1).2
  unfold Form.checkNodes at hn
  cases hw : Entries.get? "nodes" fields with
  | none => rw [hw] at hn; cases hn
  | some w =>
    rw [hw] at hn
    dsimp only at hn
    cases hi : h.items? w with
    | none => rw [hi] at hn; cases hn
    | some items =>
      rw [hi] at hn
      exact ⟨w, items, rfl, hi, hn⟩

theorem checkGraph_ok {parts : Form.GraphParts} (hc : Form.checkGraph h v = .ok parts) :
    ∃ items, (∀ Q, h.Hereditary Q → Q v → ∀ w ∈ items, Q w) ∧
      Form.checkNodesFrom h .node 0 items = .ok parts.nodes := by
  unfold Form.checkGraph at hc
  split at hc
  · rename_i fields hf
    obtain ⟨w, items, hw, hi, hn⟩ := ofFields_ok hc
    refine ⟨items, fun Q hq hv x hx => ?_, hn⟩
    have hmem : w ∈ (Cell.object fields).values :=
      List.mem_map.2 ⟨_, Entries.mem_of_get? hw, rfl⟩
    exact hq.of_item (hq v _ hv hf w hmem) hi hx
  · obtain ⟨w, items, hw, hi, hn⟩ := ofFields_ok hc
    obtain rfl : v = w := Option.some.inj hw
    exact ⟨items, fun Q hq hv x hx => hq.of_item hv hi hx, hn⟩
  · cases hc

theorem parse_ok (hg : parse h v = .ok g) :
    ∃ items, (∀ Q, h.Hereditary Q → Q v → ∀ w ∈ items, Q w) ∧
      List.Forall₂ (fun w n => Node.parse h (.record w) = .ok n) items g.nodes := by
  unfold parse at hg
  cases hc : Form.checkGraph h v with
  | error vs => rw [hc] at hg; cases hg
  | ok parts =>
    rw [hc] at hg
    obtain ⟨items, hitems, hn⟩ := checkGraph_ok hc
    obtain ⟨nodes, hp, hok⟩ := bind_ok_iff.1 hg
    cases hok
    exact ⟨items, hitems,
      parsed_of_checked (Form.checkNodesFrom_ok_iff.1 hn) (Node.eachFrom_ok_iff.1 hp)⟩

theorem read_nodes (hv : h.Every Scalar.Writable v) (hg : parse h v = .ok g) :
    ∀ n ∈ g.nodes, n.Read := by
  obtain ⟨items, hitems, hall⟩ := parse_ok hg
  refine Node.forall_of_forall₂ hall fun w hw n hn => ?_
  exact Node.read_of_record (hitems _ (Objects.hereditary_every _ h) hv w hw) hn

theorem ofRecords_nodes (hv : h.Every Scalar.Writable v) (hg : parse h v = .ok g) (h' : Objects) :
    (Submission.list (g.nodes.map Node.source)).OfRecords h' :=
  List.forall_mem_map.2 fun n hn => .node (read_nodes hv hg n hn)

theorem literal_of_parse {Q : Value → Prop} (hq : h.Hereditary Q) (hv : Q v)
    (hg : parse h v = .ok g) : ∀ n ∈ g.nodes, ∀ p ∈ n.parameters, ∀ x, p.2 = .literal x → Q x := by
  obtain ⟨items, hitems, hall⟩ := parse_ok hg
  exact Node.forall_of_forall₂ hall fun w hw n hn =>
    Node.literal_of_record hq (hitems Q hq hv w hw) hn

end Graph

end NodeWalk
