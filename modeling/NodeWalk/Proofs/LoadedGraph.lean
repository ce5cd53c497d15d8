import NodeWalk.Graph.File
import NodeWalk.Proofs.FailedWrite
import NodeWalk.Proofs.ReadNodes

set_option autoImplicit false

/-!
# Graphs from files

What a file that can be read comes to as a graph: a graph with tagged parameters, or a fault of
the graph whose message can be written, by what each step of the parser may complain of. Two
kinds of files come to neither: octets that are no text, and a numeral that is too long.
-/
namespace NodeWalk

/-- A fault of a graph that is reported as what it is. -/
def Fault.OfGraph (f : Fault) : Prop := ∃ g : GraphFault, f = .graph g ∧ g.text?.isSome = true

namespace Fault

variable {f : Fault} {g : GraphFault}

theorem ofGraph_settled (hg : g.text?.isSome = true) : (Fault.graph g).settled.OfGraph :=
  ⟨g, if_pos hg, hg⟩

theorem OfGraph.explained (hf : f.OfGraph) {wrap : GraphFault → GraphFault}
    (hwrap : ∀ g, g.text?.isSome = true → (wrap g).text?.isSome = true) :
    (f.explained wrap).OfGraph := by
  obtain ⟨g, rfl, hg⟩ := hf
  exact ofGraph_settled (hwrap g hg)

end Fault

namespace GraphFault

variable {g : GraphFault}

theorem isSome_text?_atNode (i : Nat) (hg : g.text?.isSome = true) :
    (atNode i g).text?.isSome = true := by
  obtain ⟨text, htext⟩ := Option.isSome_iff_exists.1 hg
  simp [text?, htext]

theorem isSome_text?_inType {type : Unfolding} (ht : type.plain?.isSome = true)
    (hg : g.text?.isSome = true) : (inType type g).text?.isSome = true := by
  obtain ⟨name, hname⟩ := Option.isSome_iff_exists.1 ht
  obtain ⟨text, htext⟩ := Option.isSome_iff_exists.1 hg
  simp [text?, hname, htext]

theorem isSome_text?_referenceSocket {n : Int} (hn : (Scalar.int n).Writable) :
    (referenceSocket n).text?.isSome = true := by
  have hn := Scalar.writable_int_iff.1 hn
  simp [text?, Numeral.write?, hn]

theorem isSome_text?_referenceIndex {t : Unfolding} (ht : t.shown?.isSome = true) :
    (referenceIndex t).text?.isSome = true := by
  obtain ⟨text, htext⟩ := Option.isSome_iff_exists.1 ht
  simp [text?, htext]

end GraphFault

variable {h : Objects}

theorem Parameter.ofGraph_ofValue {v : Value} {f : Fault} (hv : h.Writable v)
    (hf : ofValue h v = .error f) : f.OfGraph := by
  unfold ofValue at hf
  split at hf
  · cases hf
  · rename_i es hes
    have hindex {index : Value} (hi : Entries.get? "$node" es = some index) : h.Writable index :=
      (Objects.hereditary_every _ h).of_entry hv hes (Entries.mem_of_get? hi)
    have hsocket {n : Int} (hi : Entries.get? "$node" es = some (.int n)) :
        (Fault.graph (.referenceSocket n)).settled.OfGraph :=
      Fault.ofGraph_settled (GraphFault.isSome_text?_referenceSocket ((hindex hi).self _ rfl))
    split at hf
    · cases hf
    · rename_i n hn
      split at hf
      · split at hf
        · rw [← Except.error.inj hf]
          exact hsocket hn
        · cases hf
      · rw [← Except.error.inj hf]
        exact hsocket hn
    · rename_i index _ hi
      rw [← Except.error.inj hf]
      exact Fault.ofGraph_settled (GraphFault.isSome_text?_referenceIndex
        (Objects.isSome_shown?_of_writable (hindex hi)))

theorem Node.ofGraph_ofParts {parts : Form.NodeParts} {f : Fault}
    (hes : ∀ e ∈ Value.entriesOfField h parts.parameters, h.Writable e.2)
    (hf : ofParts h parts = .error f) : f.OfGraph := by
  obtain ⟨f', hdrafts, rfl⟩ := build_error hf
  obtain ⟨d, hd, hdraft⟩ := Parameter.ofDrafts_error hdrafts
  obtain ⟨e, he, rfl⟩ := List.mem_map.1 hd
  exact (Parameter.ofGraph_ofValue (hes e he) hdraft).explained
    fun g hg => GraphFault.isSome_text?_inType rfl hg

theorem writable_parameters {form : Form} {v : Value} {parts : Form.NodeParts} (hv : h.Writable v)
    (hparts : Form.checkNode h form v = .ok parts) :
    ∀ e ∈ Value.entriesOfField h parts.parameters, h.Writable e.2 := by
  obtain ⟨fields, hfields, -, ⟨-, hparameters⟩, -⟩ := Form.checkNode_ok_iff.1 hparts
  rw [hparameters, Node.entriesOfField_given]
  exact (Objects.hereditary_every _ h).of_entriesOfField hv hfields

namespace Graph

variable {v : Value}

theorem ofGraph_parse {f : Fault} (hv : h.Writable v) (hf : parse h v = .error f) : f.OfGraph := by
  unfold parse at hf
  split at hf
  · rename_i parts hchecked
    obtain ⟨items, hitems, hnodes⟩ := checkGraph_ok hchecked
    obtain hnode | ⟨nodes, -, hend⟩ := bind_error_iff.1 hf
    · obtain ⟨k, p, f', hp, hf', rfl⟩ := Node.eachFrom_error hnode
      have hparameters : ∀ p ∈ parts.nodes,
          ∀ e ∈ Value.entriesOfField h p.parameters, h.Writable e.2 :=
        Node.forall_of_forall₂ (Form.checkNodesFrom_ok_iff.1 hnodes) fun w hw p hp =>
          writable_parameters (hitems _ (Objects.hereditary_every _ h) hv w hw) hp
      exact (Node.ofGraph_ofParts (hparameters p (List.mem_of_getElem? hp)) hf').explained
        fun g hg => GraphFault.isSome_text?_atNode _ hg
    · cases hend
  · cases hf
    exact ⟨_, rfl, rfl⟩

end Graph

/-- A parameter that was tagged: what carries the mark is a reference to an integer and a text
that is not empty. -/
inductive Parameter.TaggedIn (h : Objects) : Parameter → Prop where
  | literal {v : Value} (plain : ∀ es, h.entries? v = some es → Entries.get? "$node" es = none) :
    TaggedIn h (.literal v)
  | reference (n : Int) {socket : Text} (named : socket ≠ "") :
    TaggedIn h (.reference (.int n) (.text socket))

theorem Parameter.taggedIn_of_ofValue {v : Value} {p : Parameter} (hp : ofValue h v = .ok p) :
    p.TaggedIn h := by
  obtain ⟨es, n, socket, -, -, -, hsocket, rfl⟩ | ⟨hplain, rfl⟩ := ofValue_ok_iff.1 hp
  · exact .reference n hsocket
  · exact .literal hplain

namespace Graph

theorem taggedIn_of_parse {v : Value} {g : Graph} (hg : parse h v = .ok g) :
    ∀ n ∈ g.nodes, ∀ p ∈ n.parameters, p.2.TaggedIn h := by
  obtain ⟨items, -, hnodes⟩ := parse_ok hg
  refine Node.forall_of_forall₂ hnodes fun w _ n hn => ?_
  obtain ⟨fields, type, -, -, -, -, -, -, hparameters⟩ := Node.parse_record_ok_iff.1 hn
  refine Node.forall_of_forall₂ hparameters fun d hd p htag => ?_
  obtain ⟨e, -, rfl⟩ := List.mem_map.1 hd
  exact Parameter.taggedIn_of_ofValue htag.2

end Graph

namespace Disk

variable {d : Disk} {p : Path} {bytes : List UInt8}

theorem readDocument_notUtf8 {u : Text.Utf8Fault} (hfile : d.look p.text = .ok (.file bytes))
    (hdecode : Text.decodeUtf8 bytes = .error u) : d.readDocument p = .error (.notUtf8 u) := by
  rw [readDocument, readText, hfile]
  dsimp only
  rw [hdecode]
  rfl

theorem readDocument_utf8 {cs : List CodePoint} (hfile : d.look p.text = .ok (.file bytes))
    (hdecode : Text.decodeUtf8 bytes = .ok cs) :
    d.readDocument p = match Json.read (Text.unifyLines cs) with
      | .ok j => .ok j
      | .error (.malformed what place) => .error (.notJson what place)
      | .error (.integerTooLong digits) => .error (.numeralTooLong digits) := by
  rw [readDocument, readText, hfile]
  dsimp only
  rw [hdecode]
  rfl

end Disk

namespace Graph

variable {disk : Disk} {path : String} {bytes : List UInt8} {j : Json} {f : Fault}

theorem load_of_document (hread : disk.readDocument (Path.ofText path) = .ok j) (h : Objects) :
    load disk path h = (parse (h.load j).2 (h.load j).1, (h.load j).2) := by
  unfold load
  dsimp only
  rw [hread]

theorem load_of_notJson {what : Json.Complaint} {place : Json.Place}
    (hread : disk.readDocument (Path.ofText path) = .error (.notJson what place)) (h : Objects) :
    load disk path h = (.error (.graph (.notJson (Path.ofText path).text what place)), h) := by
  unfold load
  dsimp only
  rw [hread]

theorem load_of_fault (hread : disk.readDocument (Path.ofText path) = .error f)
    (hf : ∀ what place, f ≠ .notJson what place) (h : Objects) :
    load disk path h = (.error f, h) := by
  unfold load
  dsimp only
  rw [hread]
  split
  · exact absurd (Except.error.inj ‹_›) (hf _ _)
  · cases ‹_›
    rfl
  · cases ‹_›

inductive Answered : Except Fault Graph × Objects → Prop where
  | graph {g : Graph} {h : Objects}
    (tagged : ∀ n ∈ g.nodes, ∀ p ∈ n.parameters, p.2.TaggedIn h) : Answered (.ok g, h)
  | fault {f : Fault} {h : Objects} (graph : f.OfGraph) : Answered (.error f, h)

theorem Answered.tagged {r : Except Fault Graph × Objects} {g : Graph} (hr : Answered r)
    (hg : r.1 = .ok g) : ∀ n ∈ g.nodes, ∀ p ∈ n.parameters, p.2.TaggedIn r.2 := by
  cases hr with
  | graph tagged =>
    cases hg
    exact tagged
  | fault graph => cases hg

theorem answered_parse {v : Value} (hv : h.Writable v) : Answered (parse h v, h) := by
  cases hparse : parse h v with
  | ok g => exact .graph (taggedIn_of_parse hparse)
  | error f => exact .fault (ofGraph_parse hv hparse)

/-- A file that can be read comes to a graph or to a fault of the graph, but for two kinds of
files: octets that are no text, and a text in which a numeral is too long. How deep the calls for a
nested document may go is not modelled. -/
theorem load_answered (hfile : disk.look (Path.ofText path).text = .ok (.file bytes))
    (h : Objects) :
    (∃ u, Text.decodeUtf8 bytes = .error u ∧ load disk path h = (.error (.notUtf8 u), h)) ∨
      ∃ cs, Text.decodeUtf8 bytes = .ok cs ∧
        ((∃ digits, Json.read (Text.unifyLines cs) = .error (.integerTooLong digits) ∧
            load disk path h = (.error (.numeralTooLong digits), h)) ∨
          (∀ digits, Json.read (Text.unifyLines cs) ≠ .error (.integerTooLong digits)) ∧
            Answered (load disk path h)) := by
  cases hdecode : Text.decodeUtf8 bytes with
  | error u =>
    have hread := Disk.readDocument_notUtf8 hfile hdecode
    exact .inl ⟨u, rfl, load_of_fault hread nofun h⟩
  | ok cs =>
    have hread := Disk.readDocument_utf8 hfile hdecode
    refine .inr ⟨cs, rfl, ?_⟩
    cases hjson : Json.read (Text.unifyLines cs) with
    | error r =>
      rw [hjson] at hread
      cases r with
      | integerTooLong digits => exact .inl ⟨digits, rfl, load_of_fault hread nofun h⟩
      | malformed what place =>
        rw [load_of_notJson hread]
        exact .inr ⟨nofun, .fault ⟨_, rfl, rfl⟩⟩
    | ok j =>
      rw [hjson] at hread
      rw [load_of_document hread]
      refine .inr ⟨nofun, answered_parse ?_⟩
      exact Objects.every_load ((Json.every_read hjson).imp fun _ ha => ha.writable) h

def holding (bytes : List UInt8) : Disk := (Disk.bare []).put ["graph.json"] (.file bytes)

theorem look_holding (bytes : List UInt8) :
    (holding bytes).look (Path.ofText "graph.json").text = .ok (.file bytes) := rfl

def referring : List UInt8 :=
  ("[\x7b\"type\": \"a.b\", \"parameters\": \x7b\"x\": " ++
    "\x7b\"$node\": 0, \"socket\": \"out\"\x7d\x7d\x7d]").toUTF8.toList

def referred : Graph :=
  ⟨[⟨.text "a.b", [("x", .reference (.int 0) (.text "out"))], .entries []⟩], 0, none⟩

theorem load_answered_referring :
    (holding referring).look (Path.ofText "graph.json").text = .ok (.file referring) ∧
      (load (holding referring) "graph.json" .empty).1 = .ok referred ∧
      ∀ n ∈ referred.nodes, ∀ p ∈ n.parameters,
        p.2.TaggedIn (load (holding referring) "graph.json" .empty).2 := by
  have hok : (load (holding referring) "graph.json" .empty).1 = .ok referred :=
    ok_of_toOption (by decide +kernel)
  obtain ⟨u, -, hload⟩ | ⟨cs, -, ⟨digits, -, hload⟩ | ⟨-, hanswered⟩⟩ :=
    load_answered (look_holding referring) .empty
  · cases hok.symm.trans (congrArg Prod.fst hload)
  · cases hok.symm.trans (congrArg Prod.fst hload)
  · exact ⟨look_holding _, hok, hanswered.tagged hok⟩

/-- Octets that are no text are reported as something else than a fault of the graph. -/
theorem load_stray_octet :
    (holding [0xFF]).look (Path.ofText "graph.json").text = .ok (.file [0xFF]) ∧
      ∃ f, (load (holding [0xFF]) "graph.json" .empty).1 = .error f ∧ f.name? = none := by
  have hdecode : Text.decodeUtf8 [0xFF] = .error ⟨0, 1, 0xFF, .badStart⟩ := rfl
  have hread := Disk.readDocument_notUtf8 (look_holding [0xFF]) hdecode
  exact ⟨look_holding _, .notUtf8 ⟨0, 1, 0xFF, .badStart⟩,
    congrArg Prod.fst (load_of_fault hread nofun .empty), rfl⟩

end Graph
end NodeWalk
