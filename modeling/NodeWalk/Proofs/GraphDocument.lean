import NodeWalk.Proofs.ReadNodes
import NodeWalk.Proofs.RunAgain
import NodeWalk.Service

set_option autoImplicit false

/-!
# The graph document of a request

The service does not run the nodes of a request as they come. It puts the checked parts into a
graph document, copies that and parses it again. What is parsed of the copy is an image of what is
parsed of the parts, and the copy has no cell in common with anything that was there.
-/
namespace NodeWalk

namespace Objects

variable {h g : Objects} {s q : Scope} {v w : Value}

def Makes {α : Type} [Carries α] (s : Scope) (made : α × Objects) : Prop :=
  ∃ s', s ≤ s' ∧ s'.marks = s.marks ∧ made.2.Holds s' ∧ Within s' made.1

theorem Holds.append (hs : h.Holds s) {c : Cell} (hc : Within s c) :
    (h.append [c]).Holds (s.plus h.cells.size 1) := by
  have hcs : Within s [c] := within_cons.2 ⟨hc, within_nil s⟩
  exact (hs.mirrors.append (Carries.mono (s.le_plus _ _) hcs)).toHolds

theorem makes_cell (hs : h.Holds s) {c : Cell} (hc : Within s c) :
    Makes s (Value.ref h.cells.size, h.append [c]) :=
  ⟨s.plus h.cells.size 1, s.le_plus _ _, rfl, hs.append hc, Scope.mem_plus (i := 0) Nat.one_pos⟩

theorem makes_newObject (hs : h.Holds s) {es : Entries Value} (hes : Within s es) :
    Makes s (h.newObject es) := by
  rw [newObject_eq]
  exact makes_cell hs (within_object.2 hes)

theorem makes_newArray (hs : h.Holds s) {items : List Value} (hitems : Within s items) :
    Makes s (h.newArray items) := by
  rw [newArray_eq]
  exact makes_cell hs (within_array.2 hitems)

theorem hereditary_reached (h : Objects) (v : Value) : h.Hereditary (Within (h.reached v)) := by
  intro w c hw hc x hx
  cases w with
  | scalar a => cases hc
  | ref a =>
    cases hc
    exact within_reached_cell hw x hx

theorem Holds.hereditary (hs : h.Holds s) : h.Hereditary (Within s) :=
  fun _ _ hv hc => within_some.1 (hc ▸ hs.within_find? hv)

/-- What a scope has in common with the reach of a value. -/
def common (g : Objects) (q : Scope) (v : Value) : Scope :=
  ⟨{a | a ∈ q.cells ∧ a ∈ g.reach v}, q.marks⟩

theorem within_common (hq : Within q w) (hw : Within (g.reached v) w) :
    Within (g.common q v) w := by
  cases w with
  | scalar a => exact hq
  | ref a => exact ⟨hq, hw⟩

theorem Holds.common (hq : h.Holds q) (hk : h.Kept g) (v : Value) : h.Holds (g.common q v) where
  size a ha := hq.size a ha.1
  within a ha w hw := by
    refine within_common (hq.within a ha.1 w hw) ?_
    rw [← hk.cell a (hq.size a ha.1)] at hw
    exact within_reached_cell ha.2 w hw
  mark := hq.mark
  zero := hq.zero

/-- A copy has, in new cells, what a value reaches of a scope that was there before it. -/
theorem twinned_copy (hq : h.Holds q) (hk : h.Kept g) (v : Value) :
    Twinned (Renaming.moved (g.reach v) g.cells.size) (g.common q v)
      (Scope.plus ⟨∅, q.marks⟩ g.cells.size (g.reach v).length) h (g.copy v).2 where
  maps a ha := by
    obtain ⟨i, hlt, -, he⟩ := exists_moved ha.2 g.cells.size
    rw [he]
    exact Scope.mem_plus hlt
  mapsMark _ hm := hm
  cell a ha :=
    ((images_copy g v).cell a ha.2).trans (congrArg (rename _) (hk.cell a (hq.size a ha.1)))
  inj a ha b hb := (images_copy g v).inj ha.2 hb.2
  injMark := Set.injOn_id _
  zero := rfl

end Objects

/-- Parts as a check leaves them. -/
structure Form.NodeParts.Sound (h : Objects) (n : NodeParts) : Prop where
  type : n.type ≠ "" ∧ n.type.isWhole = true
  parameters : ∀ v, n.parameters = some v → ∃ es, h.entries? v = some es
  flow : ∀ v, n.flow = some v → ∃ es, h.entries? v = some es

theorem Form.sound_of_checkNode {h : Objects} {form : Form} {v : Value} {n : NodeParts}
    (hn : checkNode h form v = .ok n) : n.Sound h := by
  obtain ⟨fields, -, ⟨htype, -⟩, ⟨hps, hps'⟩, hfl, hfl'⟩ := checkNode_ok_iff.1 hn
  have given {field : Option Value} (hfield : Value.OptionalObject h field) {w : Value}
      (hw : Value.given field = some w) : ∃ es, h.entries? w = some es := by
    rw [Value.given] at hw
    split at hw
    · cases hw
    · rename_i hnull
      exact (hfield w hw).resolve_left fun he => hnull (he ▸ hw)
  exact ⟨htype, fun w hw => given hps (hps' ▸ hw), fun w hw => given hfl (hfl' ▸ hw)⟩

namespace Service

variable {h₀ h g : Objects} {s q : Scope} {field : Option Value} {n : Form.NodeParts}
  {all : List Form.NodeParts} {parts : RunParts}

theorem kept_given (field : Option Value) (h : Objects) : h.Kept (given field h).2 := by
  cases field with
  | none => exact Objects.kept_newObject [] h
  | some v => exact .refl h

theorem kept_nodeRecord (n : Form.NodeParts) (h : Objects) : h.Kept (nodeRecord n h).2 :=
  ((kept_given _ h).trans (kept_given _ _)).trans (Objects.kept_newObject _ _)

theorem kept_nodeRecords (all : List Form.NodeParts) (h : Objects) :
    h.Kept (nodeRecords all h).2 := by
  induction all generalizing h with
  | nil => exact .refl h
  | cons n ns ih => exact (kept_nodeRecord n h).trans (ih _)

theorem kept_graphRecord (parts : RunParts) (h : Objects) : h.Kept (graphRecord parts h).2 :=
  ((kept_nodeRecords _ h).trans (Objects.kept_newArray _ _)).trans (Objects.kept_newObject _ _)

theorem makes_given (hs : h.Holds s) (hf : Within s field) : Objects.Makes s (given field h) := by
  cases field with
  | none => exact Objects.makes_newObject hs (within_nil s)
  | some v => exact ⟨s, s.le_refl, rfl, hs, within_some.1 hf⟩

theorem makes_nodeRecord (hs : h.Holds s) (hn : Within s n) :
    Objects.Makes s (nodeRecord n h) := by
  obtain ⟨s₁, hle₁, hm₁, hh₁, hps⟩ := makes_given hs hn.1
  obtain ⟨s₂, hle₂, hm₂, hh₂, hfl⟩ := makes_given hh₁ (Carries.mono hle₁ hn.2)
  have hes : Within s₂ ([(↑"type", .text n.type), (↑"parameters", (given n.parameters h).1),
      (↑"flow", (given n.flow (given n.parameters h).2).1)] : Entries Value) :=
    within_cons.2 ⟨within_text _ _, within_cons.2 ⟨Carries.mono hle₂ hps,
      within_cons.2 ⟨hfl, within_nil _⟩⟩⟩
  obtain ⟨s₃, hle₃, hm₃, hh₃, hv⟩ := Objects.makes_newObject hh₂ hes
  exact ⟨s₃, Scope.le_trans (Scope.le_trans hle₁ hle₂) hle₃, by rw [hm₃, hm₂, hm₁], hh₃, hv⟩

theorem makes_nodeRecords (hs : h.Holds s) (hall : Within s all) :
    Objects.Makes s (nodeRecords all h) := by
  induction all generalizing h s with
  | nil => exact ⟨s, s.le_refl, rfl, hs, within_nil s⟩
  | cons n ns ih =>
    obtain ⟨hn, hns⟩ := within_cons.1 hall
    obtain ⟨s₁, hle₁, hm₁, hh₁, hv⟩ := makes_nodeRecord hs hn
    obtain ⟨s₂, hle₂, hm₂, hh₂, hvs⟩ := ih hh₁ (Carries.mono hle₁ hns)
    exact ⟨s₂, Scope.le_trans hle₁ hle₂, hm₂.trans hm₁, hh₂,
      within_cons.2 ⟨Carries.mono hle₂ hv, hvs⟩⟩

theorem makes_graphRecord (hs : h.Holds s) (hall : Within s parts.nodes) :
    Objects.Makes s (graphRecord parts h) := by
  obtain ⟨s₁, hle₁, hm₁, hh₁, hvs⟩ := makes_nodeRecords hs hall
  obtain ⟨s₂, hle₂, hm₂, hh₂, hv⟩ := Objects.makes_newArray hh₁ hvs
  have hes : Within s₂ ([(↑"entry", .int parts.entry), (↑"nodes",
      ((nodeRecords parts.nodes h).2.newArray (nodeRecords parts.nodes h).1).1)] : Entries Value) :=
    within_cons.2 ⟨within_int _ _, within_cons.2 ⟨hv, within_nil _⟩⟩
  obtain ⟨s₃, hle₃, hm₃, hh₃, hw⟩ := Objects.makes_newObject hh₂ hes
  exact ⟨s₃, Scope.le_trans (Scope.le_trans hle₁ hle₂) hle₃, by rw [hm₃, hm₂, hm₁], hh₃, hw⟩

/-- The fields of a record that restates checked parts: what was given stands in it, and an empty
object for what was not. -/
structure Restates (h₀ g : Objects) (field : Option Value) (v : Value) : Prop where
  entries : g.entries? v = some (Value.entriesOfField h₀ field)
  given : ∀ w, field = some w → v = w

def Records (h₀ g : Objects) (n : Form.NodeParts) (record : Value) : Prop :=
  ∃ parameters flow, g.entries? record = some [(↑"type", .text n.type),
    (↑"parameters", parameters), (↑"flow", flow)] ∧
      Restates h₀ g n.parameters parameters ∧ Restates h₀ g n.flow flow

theorem restates_given (hq : h₀.Holds q) (hf : Within q field)
    (hobject : ∀ v, field = some v → ∃ es, h₀.entries? v = some es) (hk : h₀.Kept h)
    (hg : (given field h).2.Kept g) : Restates h₀ g field (given field h).1 := by
  cases field with
  | none => exact ⟨hg.entries?_newObject, nofun⟩
  | some v =>
    obtain ⟨es, hes⟩ := hobject v rfl
    have hsize : ∀ a, v = .ref a → a < h₀.cells.size := by
      rintro a rfl
      exact hq.size a (within_some.1 hf)
    refine ⟨?_, fun w hw => Option.some.inj hw⟩
    show g.entries? v = some (Value.entriesOfField h₀ (some v))
    rw [Value.entriesOfField, Option.bind_some, hes, Option.getD_some, ← hes, Objects.entries?,
      Objects.entries?, Objects.Kept.find?_eq (hk.trans hg) hsize]

theorem records_nodeRecord (hq : h₀.Holds q) (hn : Within q n) (hsound : n.Sound h₀)
    (hk : h₀.Kept h) (hg : (nodeRecord n h).2.Kept g) : Records h₀ g n (nodeRecord n h).1 := by
  have hk₁ := hk.trans (kept_given n.parameters h)
  have hg₂ := (Objects.kept_newObject _ _).trans hg
  have hg₁ := (kept_given n.flow (given n.parameters h).2).trans hg₂
  exact ⟨_, _, hg.entries?_newObject, restates_given hq hn.1 hsound.parameters hk hg₁,
    restates_given hq hn.2 hsound.flow hk₁ hg₂⟩

theorem records_nodeRecords (hq : h₀.Holds q) (hall : Within q all)
    (hsound : ∀ n ∈ all, n.Sound h₀) (hk : h₀.Kept h) (hg : (nodeRecords all h).2.Kept g) :
    List.Forall₂ (Records h₀ g) all (nodeRecords all h).1 := by
  induction all generalizing h with
  | nil => exact .nil
  | cons n ns ih =>
    obtain ⟨hn, hns⟩ := within_cons.1 hall
    obtain ⟨hfirst, hothers⟩ := List.forall_mem_cons.1 hsound
    exact .cons (records_nodeRecord hq hn hfirst hk ((kept_nodeRecords ns _).trans hg))
      (ih hns hothers (hk.trans (kept_nodeRecord n h)) hg)

def Documents (h₀ g : Objects) (parts : RunParts) (document : Value) : Prop :=
  ∃ nodes records, g.entries? document = some [(↑"entry", .int parts.entry), (↑"nodes", nodes)] ∧
    g.items? nodes = some records ∧ List.Forall₂ (Records h₀ g) parts.nodes records

theorem documents_graphRecord (hq : h.Holds q) (hparts : Within q parts.nodes)
    (hsound : ∀ n ∈ parts.nodes, n.Sound h) :
    Documents h (graphRecord parts h).2 parts (graphRecord parts h).1 := by
  have hnodes : ((nodeRecords parts.nodes h).2.newArray (nodeRecords parts.nodes h).1).2.Kept
      (graphRecord parts h).2 := Objects.kept_newObject _ _
  exact ⟨_, _, Objects.entries?_newObject _ _, hnodes.items?_newArray,
    records_nodeRecords hq hparts hsound (.refl h) ((Objects.kept_newArray _ _).trans hnodes)⟩

variable {σ : Renaming} {p : Scope} {document record v : Value}

theorem checked_image {s : Scope} (hi : Objects.Images σ s h g)
    (hs : h.Hereditary (Within s)) (hm : Objects.Mirrors σ p h₀ g) (hn : Within p n)
    (hsound : n.Sound h₀) (hrecord : Records h₀ h n record) (hw : Within s record) :
    ∃ n', Form.checkNode g .node (rename σ record) = .ok n' ∧
      Matches σ p (Node.ofParts h₀ n) (Node.ofParts g n') := by
  obtain ⟨ps, fl, hfields, hps, hfl⟩ := hrecord
  have hwps : Within s ps := hs.of_entry hw hfields (k := "parameters") (by simp)
  have hwfl : Within s fl := hs.of_entry hw hfields (k := "flow") (by simp)
  have hfields' := hi.entries?_rename hw
  rw [hfields] at hfields'
  have hps' := hi.entries?_rename hwps
  rw [hps.entries] at hps'
  have hfl' := hi.entries?_rename hwfl
  rw [hfl.entries] at hfl'
  have optional {v : Value} {es : Entries Value} (hv : g.entries? v = some es) :
      Value.OptionalObject g (some v) ∧ some v = Value.given (some v) := by
    have hnull : v ≠ .null := by
      rintro rfl
      cases hv
    refine ⟨fun w hw => .inr ⟨es, by rw [← Option.some.inj hw, hv]⟩, ?_⟩
    rw [Value.given, if_neg fun he => hnull (Option.some.inj he)]
  refine ⟨⟨n.type, some (rename σ ps), some (rename σ fl)⟩, Form.checkNode_ok_iff.2
    ⟨_, hfields', ⟨hsound.type, ?_⟩, ?_, ?_⟩, ?_⟩
  · simp [Entries.get?, rename_scalar_of_not_float]
  · simpa [Entries.get?] using optional hps'
  · simpa [Entries.get?] using optional hfl'
  · refine Node.ofParts_matches hm hn rfl ?_ ?_
    · rw [Option.bind_some, hps', rename_some, Option.getD_some, Value.entriesOfField]
    · rw [Option.bind_some, hfl', rename_some, Option.getD_some, Value.entriesOfField]

theorem checkedAll_image {s : Scope} (hi : Objects.Images σ s h g)
    (hs : h.Hereditary (Within s)) (hm : Objects.Mirrors σ p h₀ g) {records : List Value}
    (hall : Within p all) (hsound : ∀ n ∈ all, n.Sound h₀)
    (hrecords : List.Forall₂ (Records h₀ h) all records) (hw : Within s records) :
    ∃ all', Form.checkNodesFrom g .node 0 (rename σ records) = .ok all' ∧
      List.Forall₂ (fun n n' => Matches σ p (Node.ofParts h₀ n) (Node.ofParts g n')) all all' := by
  simp only [Form.checkNodesFrom_ok_iff]
  induction hrecords with
  | nil => exact ⟨[], .nil, .nil⟩
  | cons hrecord _ ih =>
    obtain ⟨hn, hns⟩ := within_cons.1 hall
    obtain ⟨hfirst, hothers⟩ := List.forall_mem_cons.1 hsound
    obtain ⟨hv, hvs⟩ := within_cons.1 hw
    obtain ⟨n', hn', hmatches⟩ := checked_image hi hs hm hn hfirst hrecord hv
    obtain ⟨ns', hns', hall'⟩ := ih hns hothers hvs
    exact ⟨n' :: ns', .cons hn' hns', .cons hmatches hall'⟩

/-- What is parsed of the image of a document of parts is what is parsed of the parts. -/
theorem parsed_image {s : Scope} (hi : Objects.Images σ s h g) (hs : h.Hereditary (Within s))
    (hm : Objects.Mirrors σ p h₀ g) (hparts : Within p parts.nodes)
    (hsound : ∀ n ∈ parts.nodes, n.Sound h₀) (hdocument : Documents h₀ h parts document)
    (hw : Within s document) :
    Matches σ p (Graph.ofParts h₀ ⟨parts.entry, parts.nodes, none⟩)
      (Graph.parse g (rename σ document)) := by
  obtain ⟨nodes, records, hfields, hitems, hrecords⟩ := hdocument
  have hwnodes : Within s nodes := hs.of_entry hw hfields (k := "nodes") (by simp)
  have hwrecords : Within s records := fun v hv => hs.of_item hwnodes hitems hv
  have hfields' := hi.entries?_rename hw
  rw [hfields] at hfields'
  have hitems' := hi.items?_rename hwnodes
  rw [hitems] at hitems'
  obtain ⟨all', hall', hmatches⟩ := checkedAll_image hi hs hm hparts hsound hrecords hwrecords
  have hcheck : Form.checkGraph g (rename σ document) = .ok ⟨parts.entry, all', none⟩ := by
    refine (Form.checkGraph_ok_iff hfields' ?_ ?_ ?_ hitems').2 ⟨all', hall', rfl⟩
    · simp [Entries.get?, rename_scalar_of_not_float]
    · simp [Entries.get?]
    · simp [Entries.get?]
  rw [Graph.parse, hcheck]
  exact (Node.eachFrom_matches hmatches 0).bind fun _ hns => ⟨hns, rfl⟩

theorem within_parts {records : List Value} (hq : Within q all) {v : Value}
    (hrecords : List.Forall₂ (Records h₀ h) all records)
    (hw : Within (h.reached v) records) : Within (h.common q v) all := by
  induction hrecords with
  | nil => exact within_nil _
  | cons hrecord _ ih =>
    obtain ⟨hn, hns⟩ := within_cons.1 hq
    obtain ⟨hv, hvs⟩ := within_cons.1 hw
    obtain ⟨ps, fl, hfields, hps, hfl⟩ := hrecord
    have hher := Objects.hereditary_reached h v
    have hwps := hher.of_entry hv hfields (k := "parameters") (w := ps) (by simp)
    have hwfl := hher.of_entry hv hfields (k := "flow") (w := fl) (by simp)
    refine within_cons.2 ⟨⟨fun w hw => ?_, fun w hw => ?_⟩, ih hns hvs⟩
    · exact Objects.within_common (hn.1 w hw) (hps.given w hw ▸ hwps)
    · exact Objects.within_common (hn.2 w hw) (hfl.given w hw ▸ hwfl)

/-- The copy `document`, among `g`, of what was made of parts among `h`: `σ` renames what they have
in common, which is in `p`, to what is in `p'`, and all of that is new. -/
structure Copied (q : Scope) (h : Objects) (parts : RunParts) (σ : Renaming) (p p' : Scope)
    (document : Value) (g : Objects) : Prop where
  kept : h.Kept g
  twinned : Objects.Twinned σ p p' h g
  holds : h.Holds p
  image : g.Holds p'
  inside : ∀ a ∈ p.cells, a ∈ q.cells
  marks : p.marks = q.marks
  fresh : ∀ a ∈ p'.cells, h.cells.size ≤ a
  sameMark : ∀ m, σ.mark m = m
  withinParts : Within p parts.nodes
  withinCopy : Within p' document
  parsed : Matches σ p (Graph.ofParts h ⟨parts.entry, parts.nodes, none⟩) (Graph.parse g document)

theorem copied_graphDocument (hq : h.Holds q) (hparts : Within q parts.nodes)
    (hsound : ∀ n ∈ parts.nodes, n.Sound h) : ∃ σ p p',
      Copied q h parts σ p p' (graphDocument parts h).1 (graphDocument parts h).2 := by
  generalize hmade : graphRecord parts h = made
  have hk : h.Kept made.2 := hmade ▸ kept_graphRecord parts h
  have hdocument : Documents h made.2 parts made.1 :=
    hmade ▸ documents_graphRecord hq hparts hsound
  obtain ⟨s, -, hmarks, hs, hv⟩ : Objects.Makes q made := hmade ▸ makes_graphRecord hq hparts
  have hgraph : graphDocument parts h = made.2.copy made.1 := by rw [graphDocument, hmade]
  rw [hgraph]
  have hi := Objects.images_copy made.2 made.1
  have hher := Objects.hereditary_reached made.2 made.1
  have hw := Objects.within_reached made.2 made.1
  -- the copy consists of new cells, which have the marks of the request
  have hnone : made.2.Holds ⟨∅, q.marks⟩ :=
    ⟨fun _ ha => ha.elim, fun _ ha => ha.elim, hmarks ▸ hs.mark, hmarks ▸ hs.zero⟩
  obtain ⟨hm, hcopy, -⟩ := hnone.mirrors.copy (hs.source hmarks.le) hv
  have hp : h.Holds (made.2.common q made.1) := hq.common hk made.1
  have htwinned := Objects.twinned_copy hq hk made.1
  have hwithin : Within (made.2.common q made.1) parts.nodes := by
    obtain ⟨nodes, records, hfields, hitems, hrecords⟩ := hdocument
    have hwnodes := hher.of_entry hw hfields (k := "nodes") (w := nodes) (by simp)
    exact within_parts hparts hrecords fun v hv => hher.of_item hwnodes hitems hv
  exact ⟨Objects.Renaming.moved (made.2.reach made.1) made.2.cells.size, made.2.common q made.1,
    Scope.plus ⟨∅, q.marks⟩ made.2.cells.size (made.2.reach made.1).length,
    { kept := hk.trans (Objects.kept_copy _ _)
      twinned := htwinned
      holds := hp
      image := hm.toHolds
      inside := fun _ ha => ha.1
      marks := rfl
      fresh := fun _ ha => Nat.le_trans hk.size (ha.resolve_left id).1
      sameMark := fun _ => rfl
      withinParts := hwithin
      withinCopy := hcopy
      parsed := by
        have hmirrors := htwinned.mirrors ⟨hp, fun _ _ => rfl⟩ ⟨hm.toHolds, fun _ _ => rfl⟩
        have hparsed := parsed_image hi hher hmirrors hwithin hsound hdocument hw
        rw [Objects.copy_eq] at hparsed ⊢
        exact hparsed }⟩

end Service
end NodeWalk
