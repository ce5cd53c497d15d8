import Mathlib.Data.List.Forall2
import NodeWalk.Graph.Parse
import NodeWalk.Proofs.Actions

set_option autoImplicit false

/-!
# Well-formed nodes

Which submitted nodes can be parsed. The rules are stated for themselves, without
the order of the checks and without their messages, and then shown to be those of
the parser: it parses a list exactly if every node of it is well-formed.
-/
namespace NodeWalk

/-- A value without the mark of a reference, or a reference in form. -/
def Value.Taggable (h : Objects) (v : Value) : Prop :=
  ∀ es index, h.entries? v = some es → Entries.get? "$node" es = some index →
    (∃ n, index = .int n) ∧
      ∃ socket : Text, socket ≠ "" ∧ Entries.get? "socket" es = some (.text socket)

/-- A field that holds an object, or null, or is not there. -/
def Value.OptionalObject (h : Objects) (field : Option Value) : Prop :=
  ∀ v, field = some v → v = .null ∨ ∃ es, h.entries? v = some es

def Value.given (field : Option Value) : Option Value :=
  if field = some .null then none else field

def Value.entriesOfField (h : Objects) (field : Option Value) : Entries Value :=
  (field.bind h.entries?).getD []

structure Value.NodeRecord (h : Objects) (fields : Entries Value) : Prop where
  type : ∃ type : Text, (type ≠ "" ∧ type.isWhole = true) ∧
    Entries.get? "type" fields = some (.text type)
  parameters : OptionalObject h (Entries.get? "parameters" fields)
  flow : OptionalObject h (Entries.get? "flow" fields)
  tags : ∀ e ∈ entriesOfField h (Entries.get? "parameters" fields), e.2.Taggable h

def Draft.WellFormed (h : Objects) : Draft → Prop
  | .tagged _ => True
  | .untagged v => v.Taggable h

def NodeSource.WellFormed (h : Objects) : NodeSource → Prop
  | .record v => ∃ fields, h.entries? v = some fields ∧ Value.NodeRecord h fields
  | .assembled _ parameters _ => ∀ p ∈ parameters, p.2.WellFormed h

def Submission.Acceptable (h : Objects) (entry : Value) (submitted : Submission) : Prop :=
  ∃ sources, Node.sources h submitted = .ok sources ∧ (∀ s ∈ sources, s.WellFormed h) ∧
    ∃ n : Nat, entry = .int n ∧ n < sources.length

namespace Checked

variable {α β : Type}

theorem both_ok_iff {c : Checked α} {d : Checked β} {p : α × β} :
    c.both d = .ok p ↔ c = .ok p.1 ∧ d = .ok p.2 := by
  cases c <;> cases d <;> simp [both, Prod.ext_iff]

theorem within_ok_iff {steps : List Step} {c : Checked α} {a : α} :
    c.within steps = .ok a ↔ c = .ok a := by
  cases c <;> simp [within, Except.mapError]

end Checked

namespace Form

variable {h : Objects}

theorem nonemptyText_ok_iff {field : Option Value} {s : Text} :
    nonemptyText field = .ok s ↔ (s ≠ "" ∧ s.isWhole = true) ∧ field = some (.text s) := by
  unfold nonemptyText text
  split
  · simp [Checked.violated, bind, Except.bind]
  · rename_i t
    simp only [bind, Except.bind, Option.some.injEq, Value.scalar.injEq, Scalar.text.injEq]
    split
    · rename_i hw
      simp only [Checked.violated, reduceCtorEq, false_iff]
      rintro ⟨⟨-, hs⟩, rfl⟩
      simp [hs] at hw
    split
    · rename_i ht
      simp only [Checked.violated, reduceCtorEq, false_iff]
      rintro ⟨⟨hs, -⟩, rfl⟩
      exact hs ht
    · rename_i hw ht
      simp only [Except.ok.injEq]
      refine ⟨?_, fun h => h.2⟩
      rintro rfl
      exact ⟨⟨ht, by simpa using hw⟩, rfl⟩
  · rename_i v hv
    simp only [Checked.violated, bind, Except.bind, reduceCtorEq, false_iff, not_and,
      Option.some.injEq]
    exact fun _ h => hv s h

theorem optionalObject_ok_iff {field o : Option Value} :
    optionalObject h field = .ok o ↔
      Value.OptionalObject h field ∧ o = Value.given field := by
  unfold optionalObject objectOf Value.OptionalObject Value.given
  split
  · simp [eq_comm]
  · simp [eq_comm]
  · rename_i v hv
    have hn : v ≠ .null := fun hc => hv (by rw [hc])
    cases he : h.entries? v <;> simp [Checked.violated, Except.map, he, hn, eq_comm]

theorem checkNode_ok_iff {form : Form} {v : Value} {parts : NodeParts} :
    checkNode h form v = .ok parts ↔ ∃ fields, h.entries? v = some fields ∧
      ((parts.type ≠ "" ∧ parts.type.isWhole = true) ∧
        Entries.get? "type" fields = some (.text parts.type)) ∧
      (Value.OptionalObject h (Entries.get? "parameters" fields) ∧
        parts.parameters = Value.given (Entries.get? "parameters" fields)) ∧
      Value.OptionalObject h (Entries.get? "flow" fields) ∧
        parts.flow = Value.given (Entries.get? "flow" fields) := by
  unfold checkNode
  cases hv : h.entries? v with
  | none => simp [Checked.violated]
  | some fields =>
    simp only [map_ok_iff, Checked.both_ok_iff, field, Checked.within_ok_iff,
      nonemptyText_ok_iff, optionalObject_ok_iff, Option.some.injEq, exists_eq_left']
    constructor
    · rintro ⟨⟨⟨type, parameters⟩, flow⟩, ⟨⟨ht, hp⟩, hf⟩, rfl⟩
      exact ⟨ht, hp, hf⟩
    · intro ⟨ht, hp, hf⟩
      exact ⟨⟨⟨parts.type, parts.parameters⟩, parts.flow⟩, ⟨⟨ht, hp⟩, hf⟩, rfl⟩

theorem checkNode_ok_congr (form form' : Form) {v : Value} {parts : NodeParts} :
    checkNode h form v = .ok parts ↔ checkNode h form' v = .ok parts := by
  rw [checkNode_ok_iff, checkNode_ok_iff]

variable {form : Form} {i : Nat} {items : List Value} {all : List NodeParts}

theorem checkNodesFrom_ok_iff : checkNodesFrom h form i items = .ok all ↔
    List.Forall₂ (fun v parts => checkNode h form v = .ok parts) items all := by
  induction items generalizing i all with
  | nil => simp [checkNodesFrom, eq_comm]
  | cons v vs ih =>
    rw [List.forall₂_cons_left_iff, checkNodesFrom, map_ok_iff]
    constructor
    · rintro ⟨⟨p, ps⟩, hboth, rfl⟩
      obtain ⟨hv, hvs⟩ := Checked.both_ok_iff.1 hboth
      exact ⟨p, ps, Checked.within_ok_iff.1 hv, ih.1 hvs, rfl⟩
    · rintro ⟨p, ps, hv, hvs, rfl⟩
      exact ⟨(p, ps), Checked.both_ok_iff.2 ⟨Checked.within_ok_iff.2 hv, ih.2 hvs⟩, rfl⟩

theorem checkNodesFrom_ok_congr (form form' : Form) :
    checkNodesFrom h form i items = .ok all ↔ checkNodesFrom h form' i items = .ok all := by
  simp only [checkNodesFrom_ok_iff, checkNode_ok_congr form form']

theorem checkGraph_ok_iff {v nodes : Value} {fields : Entries Value} {e : Int} {parts : GraphParts}
    (hv : h.entries? v = some fields) (hentry : Entries.get? "entry" fields = some (.int e))
    (hnodes : Entries.get? "nodes" fields = some nodes) (hname : Entries.get? "name" fields = none)
    (hitems : h.items? nodes = some items) : checkGraph h v = .ok parts ↔
      ∃ all, checkNodesFrom h .node 0 items = .ok all ∧ ⟨e, all, none⟩ = parts := by
  have hfind : h.find? v = some (.object fields) := by
    unfold Objects.entries? at hv
    split at hv
    · rename_i hf
      rw [hf, Option.some.inj hv]
    · cases hv
  have hinteger : integerOr 0 (some (.int e)) = .ok e := rfl
  unfold checkGraph
  rw [hfind]
  simp only [checkGraph.ofFields, Checked.within_ok_iff, map_ok_iff, Checked.both_ok_iff, field,
    hentry, hnodes, hname]
  simp [hinteger, checkNodes, hitems, optionalText]

end Form

namespace Parameter

variable {h : Objects}

/-- A value that can be tagged is a reference if it carries the mark, and itself
otherwise. -/
theorem ofValue_ok_iff {v : Value} {p : Parameter} :
    ofValue h v = .ok p ↔
      (∃ es n s, h.entries? v = some es ∧ Entries.get? "$node" es = some (.int n) ∧
        Entries.get? "socket" es = some (.text s) ∧ s ≠ "" ∧ p = .reference (.int n) (.text s)) ∨
      ((∀ es, h.entries? v = some es → Entries.get? "$node" es = none) ∧ p = .literal v) := by
  unfold ofValue
  cases he : h.entries? v with
  | none => simp [eq_comm]
  | some es =>
    cases hn : Entries.get? "$node" es with
    | none => simp [hn, eq_comm]
    | some index =>
      simp only [Option.some.injEq, exists_and_left, exists_eq_left', forall_eq', hn,
        reduceCtorEq, false_and, or_false]
      cases index with
      | ref a => simp
      | scalar t =>
        cases t with
        | int n =>
          cases hs : Entries.get? "socket" es with
          | none => simp
          | some socket =>
            cases socket with
            | ref a => simp
            | scalar t =>
              cases t with
              | text s => by_cases hne : s = "" <;> simp [hne, eq_comm]
              | _ => simp
        | _ => simp

theorem exists_ofValue_iff {v : Value} : (∃ p, ofValue h v = .ok p) ↔ v.Taggable h := by
  simp only [ofValue_ok_iff]
  constructor
  · rintro ⟨p, ⟨es, n, s, he, hn, hs, hne, -⟩ | ⟨hno, -⟩⟩ fs index hf hi
    · rw [he] at hf
      cases hf
      rw [hn] at hi
      cases hi
      exact ⟨⟨n, rfl⟩, s, hne, hs⟩
    · rw [hno fs hf] at hi
      cases hi
  · intro ht
    cases he : h.entries? v with
    | none => exact ⟨_, .inr ⟨fun _ hc => (nomatch hc), rfl⟩⟩
    | some es =>
      cases hn : Entries.get? "$node" es with
      | none => exact ⟨_, .inr ⟨fun fs hf => by cases hf; exact hn, rfl⟩⟩
      | some index =>
        obtain ⟨⟨n, rfl⟩, s, hne, hs⟩ := ht es index he hn
        exact ⟨_, .inl ⟨es, n, s, rfl, hn, hs, hne, rfl⟩⟩

theorem exists_ofDraft_iff {d : Draft} : (∃ p, ofDraft h d = .ok p) ↔ d.WellFormed h := by
  cases d with
  | tagged p => simp [ofDraft, Draft.WellFormed]
  | untagged v => exact exists_ofValue_iff

def Tags (h : Objects) (d : Text × Draft) (p : Text × Parameter) : Prop :=
  p.1 = d.1 ∧ ofDraft h d.2 = .ok p.2

theorem ofDrafts_ok_iff {ds : List (Text × Draft)} {ps : List (Text × Parameter)} :
    ofDrafts h ds = .ok ps ↔ List.Forall₂ (Tags h) ds ps := by
  induction ds generalizing ps with
  | nil => simp [ofDrafts, eq_comm]
  | cons d ds ih =>
    obtain ⟨k, d⟩ := d
    rw [List.forall₂_cons_left_iff]
    simp only [ofDrafts, bind_ok_iff, ih, Except.ok.injEq, Tags]
    constructor
    · rintro ⟨p, hp, qs, hqs, rfl⟩
      exact ⟨(k, p), qs, ⟨rfl, hp⟩, hqs, rfl⟩
    · rintro ⟨⟨_, p⟩, qs, ⟨rfl, hp⟩, hqs, rfl⟩
      exact ⟨p, hp, qs, hqs, rfl⟩

theorem exists_ofDrafts_iff {ds : List (Text × Draft)} :
    (∃ ps, ofDrafts h ds = .ok ps) ↔ ∀ d ∈ ds, d.2.WellFormed h := by
  simp only [ofDrafts_ok_iff]
  induction ds with
  | nil => simp
  | cons d ds ih =>
    rw [List.forall_mem_cons, ← ih, ← exists_ofDraft_iff]
    constructor
    · rintro ⟨_, hps⟩
      obtain ⟨p, ps, hp, hps, -⟩ := List.forall₂_cons_left_iff.1 hps
      exact ⟨⟨p.2, hp.2⟩, ps, hps⟩
    · rintro ⟨⟨p, hp⟩, ps, hps⟩
      exact ⟨(d.1, p) :: ps, .cons ⟨rfl, hp⟩ hps⟩

theorem ofDrafts_error {ds : List (Text × Draft)} {f : Fault}
    (hf : ofDrafts h ds = .error f) : ∃ d ∈ ds, ofDraft h d.2 = .error f := by
  induction ds with
  | nil => cases hf
  | cons d ds ih =>
    obtain hfirst | ⟨p, -, hbehind⟩ := bind_error_iff.1 hf
    · exact ⟨d, List.mem_cons_self, hfirst⟩
    · obtain hothers | ⟨ps, -, hend⟩ := bind_error_iff.1 hbehind
      · obtain ⟨e, he, hfe⟩ := ih hothers
        exact ⟨e, List.mem_cons_of_mem d he, hfe⟩
      · cases hend

end Parameter

namespace Node

variable {h : Objects}

theorem build_ok_iff {type : Value} {ds : List (Text × Draft)} {flow : Flow} {n : Node} :
    build h type ds flow = .ok n ↔ n.type = type ∧ n.flow = flow ∧
      List.Forall₂ (Parameter.Tags h) ds n.parameters := by
  unfold build
  obtain ⟨nodeType, parameters, nodeFlow⟩ := n
  rw [← Parameter.ofDrafts_ok_iff]
  cases Parameter.ofDrafts h ds with
  | error f => simp
  | ok ps => simp [eq_comm, and_comm, and_left_comm]

theorem build_error {type : Value} {ds : List (Text × Draft)} {flow : Flow} {f : Fault}
    (hf : build h type ds flow = .error f) : ∃ f', Parameter.ofDrafts h ds = .error f' ∧
      f = f'.explained (.inType (h.unfold type)) := by
  unfold build at hf
  split at hf
  · cases hf
  · cases hf
    exact ⟨_, ‹_›, rfl⟩

theorem exists_build_iff {type : Value} {ds : List (Text × Draft)} {flow : Flow} :
    (∃ n, build h type ds flow = .ok n) ↔ ∀ d ∈ ds, d.2.WellFormed h := by
  rw [← Parameter.exists_ofDrafts_iff]
  simp only [build_ok_iff, Parameter.ofDrafts_ok_iff]
  constructor
  · rintro ⟨n, -, -, hps⟩
    exact ⟨_, hps⟩
  · rintro ⟨ps, hps⟩
    exact ⟨⟨type, ps, flow⟩, rfl, rfl, hps⟩

theorem entriesOfField_given (field : Option Value) :
    Value.entriesOfField h (Value.given field) = Value.entriesOfField h field := by
  by_cases hf : field = some .null
  · simp [hf, Value.given, Value.entriesOfField, Objects.entries?, Objects.find?]
  · rw [Value.given, if_neg hf]

theorem ofParts_ok_iff {parts : Form.NodeParts} {n : Node} :
    ofParts h parts = .ok n ↔ n.type = .text parts.type ∧
      n.flow = .entries (Value.entriesOfField h parts.flow) ∧
      List.Forall₂ (Parameter.Tags h)
        ((Value.entriesOfField h parts.parameters).map fun e => (e.1, .untagged e.2))
        n.parameters :=
  build_ok_iff

/-- A record and the node it is parsed to: the same type, the parameters tagged under
their names and in their order, the entries of the control data as they stand. -/
theorem parse_record_ok_iff {v : Value} {n : Node} :
    parse h (.record v) = .ok n ↔ ∃ fields, ∃ type : Text, h.entries? v = some fields ∧
      ((type ≠ "" ∧ type.isWhole = true) ∧ Entries.get? "type" fields = some (.text type)) ∧
      Value.OptionalObject h (Entries.get? "parameters" fields) ∧
      Value.OptionalObject h (Entries.get? "flow" fields) ∧
      n.type = .text type ∧
      n.flow = .entries (Value.entriesOfField h (Entries.get? "flow" fields)) ∧
      List.Forall₂ (Parameter.Tags h)
        ((Value.entriesOfField h (Entries.get? "parameters" fields)).map
          fun e => (e.1, .untagged e.2)) n.parameters := by
  constructor
  · intro hp
    rw [parse] at hp
    cases hc : Form.checkNode h .node v with
    | error vs => rw [hc] at hp; cases hp
    | ok parts =>
      obtain ⟨fields, hv, ht, ⟨hps, hps'⟩, hfl, hfl'⟩ := Form.checkNode_ok_iff.1 hc
      rw [hc] at hp
      obtain ⟨hn, hf, htags⟩ := ofParts_ok_iff.1 hp
      rw [hfl', entriesOfField_given] at hf
      rw [hps', entriesOfField_given] at htags
      exact ⟨fields, parts.type, hv, ht, hps, hfl, hn, hf, htags⟩
  · rintro ⟨fields, type, hv, ht, hps, hfl, hn, hf, htags⟩
    have hc : Form.checkNode h .node v = .ok ⟨type,
        Value.given (Entries.get? "parameters" fields), Value.given (Entries.get? "flow" fields)⟩ :=
      Form.checkNode_ok_iff.2 ⟨fields, hv, ht, ⟨hps, rfl⟩, hfl, rfl⟩
    rw [parse, hc]
    refine ofParts_ok_iff.2 ⟨hn, ?_, ?_⟩
    · rw [entriesOfField_given, hf]
    · rw [entriesOfField_given]
      exact htags

theorem exists_parse_iff {source : NodeSource} :
    (∃ n, parse h source = .ok n) ↔ source.WellFormed h := by
  cases source with
  | assembled type ds flow => exact exists_build_iff
  | record v =>
    simp only [parse_record_ok_iff, NodeSource.WellFormed]
    constructor
    · rintro ⟨n, fields, type, hv, ht, hps, hfl, -, -, htags⟩
      refine ⟨fields, hv, ⟨type, ht⟩, hps, hfl, fun e he => ?_⟩
      exact Parameter.exists_ofDrafts_iff.1 ⟨_, Parameter.ofDrafts_ok_iff.2 htags⟩ _
        (List.mem_map_of_mem he)
    · rintro ⟨fields, hv, ⟨type, ht⟩, hps, hfl, htags⟩
      have hd : ∀ d ∈ (Value.entriesOfField h (Entries.get? "parameters" fields)).map
          fun e => (e.1, Draft.untagged e.2), d.2.WellFormed h := by
        rw [List.forall_mem_map]
        exact htags
      obtain ⟨ps, hps'⟩ := Parameter.exists_ofDrafts_iff.2 hd
      exact ⟨⟨.text type, ps, _⟩, fields, type, hv, ht, hps, hfl, rfl, rfl,
        Parameter.ofDrafts_ok_iff.1 hps'⟩

theorem eachFrom_ok_iff {α : Type} {parse : α → Except Fault Node} {as : List α}
    {ns : List Node} {i : Nat} :
    eachFrom parse i as = .ok ns ↔ List.Forall₂ (fun a n => parse a = .ok n) as ns := by
  induction as generalizing ns i with
  | nil => simp [eachFrom, eq_comm]
  | cons a as ih =>
    rw [List.forall₂_cons_left_iff]
    rw [eachFrom]
    cases ha : parse a with
    | error f => simp
    | ok n =>
      simp only [bind_ok_iff, ih, Except.ok.injEq]
      constructor
      · rintro ⟨ns, hns, rfl⟩
        exact ⟨n, ns, rfl, hns, rfl⟩
      · rintro ⟨_, ns, rfl, hns, rfl⟩
        exact ⟨ns, hns, rfl⟩

/-- A list that cannot be parsed fails as one of its nodes does, with its position. -/
theorem eachFrom_error {α : Type} {parse : α → Except Fault Node} {as : List α} {i : Nat}
    {f : Fault} (hf : eachFrom parse i as = .error f) : ∃ k a f', as[k]? = some a ∧
      parse a = .error f' ∧ f = f'.explained (.atNode (i + k)) := by
  induction as generalizing i with
  | nil => cases hf
  | cons a as ih =>
    rw [eachFrom] at hf
    split at hf
    · cases hf
      exact ⟨0, a, _, rfl, ‹_›, rfl⟩
    · obtain hothers | ⟨ns, -, hend⟩ := bind_error_iff.1 hf
      · obtain ⟨k, b, f', hb, hf', rfl⟩ := ih hothers
        exact ⟨k + 1, b, f', hb, hf', by rw [Nat.add_right_comm, Nat.add_assoc]⟩
      · cases hend

theorem exists_eachFrom_iff {α : Type} {parse : α → Except Fault Node} {as : List α} {i : Nat} :
    (∃ ns, eachFrom parse i as = .ok ns) ↔ ∀ a ∈ as, ∃ n, parse a = .ok n := by
  simp only [eachFrom_ok_iff]
  induction as with
  | nil => simp
  | cons a as ih =>
    rw [List.forall_mem_cons, ← ih]
    constructor
    · rintro ⟨_, hns⟩
      obtain ⟨n, ns, hn, hns, -⟩ := List.forall₂_cons_left_iff.1 hns
      exact ⟨⟨n, hn⟩, ns, hns⟩
    · rintro ⟨⟨n, hn⟩, ns, hns⟩
      exact ⟨n :: ns, .cons hn hns⟩

theorem exists_parseAll_iff {submitted : Submission} :
    (∃ ns, parseAll h submitted = .ok ns) ↔
      ∃ sources, Node.sources h submitted = .ok sources ∧ ∀ s ∈ sources, s.WellFormed h := by
  simp only [parseAll, bind_ok_iff, ← exists_parse_iff]
  constructor
  · rintro ⟨ns, sources, hs, hns⟩
    exact ⟨sources, hs, exists_eachFrom_iff.1 ⟨ns, hns⟩⟩
  · rintro ⟨sources, hs, hall⟩
    obtain ⟨ns, hns⟩ := exists_eachFrom_iff.2 hall
    exact ⟨ns, sources, hs, hns⟩

theorem parsed_of_parseAll {submitted : Submission} {ns : List Node}
    (hp : parseAll h submitted = .ok ns) :
    ∃ sources, Node.sources h submitted = .ok sources ∧
      List.Forall₂ (fun s n => parse h s = .ok n) sources ns := by
  obtain ⟨sources, hs, hns⟩ := bind_ok_iff.1 hp
  exact ⟨sources, hs, eachFrom_ok_iff.1 hns⟩

end Node
end NodeWalk
