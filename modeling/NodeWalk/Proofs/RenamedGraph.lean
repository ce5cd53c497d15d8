import Mathlib.Data.List.Forall2
import NodeWalk.Graph.Parse
import NodeWalk.Proofs.Follows

set_option autoImplicit false

/-!
# Renamed graphs

Parsing looks at kinds, names and integers only. From a mirrored submission it makes
the mirrored nodes, or it fails alike. What the nodes hold are the values of the
submission themselves, so they are in every scope that holds the submission.
-/
namespace NodeWalk

instance : Carries Parameter where
  rename ρ
    | .literal v => .literal (rename ρ v)
    | .reference node socket => .reference (rename ρ node) (rename ρ socket)
  Within s
    | .literal v => Within s v
    | .reference node socket => Within s node ∧ Within s socket
  mono {s t p} hs h := by
    cases p with
    | literal v => exact Carries.mono (α := Value) hs h
    | reference node socket => exact ⟨Carries.mono hs h.1, Carries.mono hs h.2⟩
  congr {s ρ τ p} hs h := by
    cases p with
    | literal v => exact congrArg Parameter.literal (Carries.congr (α := Value) hs h)
    | reference node socket =>
      exact congrArg₂ Parameter.reference (Carries.congr hs h.1) (Carries.congr hs h.2)
  same p := by
    cases p with
    | literal v => exact congrArg Parameter.literal (Carries.same v)
    | reference node socket =>
      exact congrArg₂ Parameter.reference (Carries.same node) (Carries.same socket)

instance : Carries Draft where
  rename ρ
    | .tagged p => .tagged (rename ρ p)
    | .untagged v => .untagged (rename ρ v)
  Within s
    | .tagged p => Within s p
    | .untagged v => Within s v
  mono {s t d} hs h := by
    cases d with
    | tagged p => exact Carries.mono (α := Parameter) hs h
    | untagged v => exact Carries.mono (α := Value) hs h
  congr {s ρ τ d} hs h := by
    cases d with
    | tagged p => exact congrArg Draft.tagged (Carries.congr (α := Parameter) hs h)
    | untagged v => exact congrArg Draft.untagged (Carries.congr (α := Value) hs h)
  same d := by
    cases d with
    | tagged p => exact congrArg Draft.tagged (Carries.same p)
    | untagged v => exact congrArg Draft.untagged (Carries.same v)

instance : Carries Flow where
  rename ρ
    | .entries es => .entries (rename ρ es)
    | .value v => .value (rename ρ v)
  Within s
    | .entries es => Within s es
    | .value v => Within s v
  mono {s t f} hs h := by
    cases f with
    | entries es => exact Carries.mono (α := Entries Value) hs h
    | value v => exact Carries.mono (α := Value) hs h
  congr {s ρ τ f} hs h := by
    cases f with
    | entries es => exact congrArg Flow.entries (Carries.congr (α := Entries Value) hs h)
    | value v => exact congrArg Flow.value (Carries.congr (α := Value) hs h)
  same f := by
    cases f with
    | entries es => exact congrArg Flow.entries (Carries.same es)
    | value v => exact congrArg Flow.value (Carries.same v)

instance : Carries Node where
  rename ρ n := ⟨rename ρ n.type, rename ρ n.parameters, rename ρ n.flow⟩
  Within s n := Within s n.type ∧ Within s n.parameters ∧ Within s n.flow
  mono hs h := ⟨Carries.mono hs h.1, Carries.mono hs h.2.1, Carries.mono hs h.2.2⟩
  congr hs h := by rw [Carries.congr hs h.1, Carries.congr hs h.2.1, Carries.congr hs h.2.2]
  same n := by rw [Carries.same, Carries.same, Carries.same]

instance : Carries NodeSource where
  rename ρ
    | .record v => .record (rename ρ v)
    | .assembled type ps flow => .assembled (rename ρ type) (rename ρ ps) (rename ρ flow)
  Within s
    | .record v => Within s v
    | .assembled type ps flow => Within s type ∧ Within s ps ∧ Within s flow
  mono {s t n} hs h := by
    cases n with
    | record v => exact Carries.mono (α := Value) hs h
    | assembled type ps flow =>
      exact ⟨Carries.mono hs h.1, Carries.mono hs h.2.1, Carries.mono hs h.2.2⟩
  congr {s ρ τ n} hs h := by
    cases n with
    | record v => exact congrArg NodeSource.record (Carries.congr (α := Value) hs h)
    | assembled type ps flow =>
      show NodeSource.assembled _ _ _ = NodeSource.assembled _ _ _
      rw [Carries.congr hs h.1, Carries.congr hs h.2.1, Carries.congr hs h.2.2]
  same n := by
    cases n with
    | record v => exact congrArg NodeSource.record (Carries.same v)
    | assembled type ps flow =>
      show NodeSource.assembled _ _ _ = NodeSource.assembled _ _ _
      rw [Carries.same, Carries.same, Carries.same]

instance : Carries Submission where
  rename ρ
    | .list sources => .list (rename ρ sources)
    | .value v => .value (rename ρ v)
  Within s
    | .list sources => Within s sources
    | .value v => Within s v
  mono {s t n} hs h := by
    cases n with
    | list sources => exact Carries.mono (α := List NodeSource) hs h
    | value v => exact Carries.mono (α := Value) hs h
  congr {s ρ τ n} hs h := by
    cases n with
    | list sources => exact congrArg Submission.list (Carries.congr (α := List NodeSource) hs h)
    | value v => exact congrArg Submission.value (Carries.congr (α := Value) hs h)
  same n := by
    cases n with
    | list sources => exact congrArg Submission.list (Carries.same sources)
    | value v => exact congrArg Submission.value (Carries.same v)

theorem Fault.Alike.explained {f f' : Fault} (h : f.Alike f') {wrap wrap' : GraphFault → GraphFault}
    (hw : ∀ g g' : GraphFault, g'.unmarked = g.unmarked →
      (wrap' g').unmarked = (wrap g).unmarked) :
    (f.explained wrap).Alike (f'.explained wrap') := by
  have hgraph {g g' : GraphFault} (hg : g'.unmarked = g.unmarked) :
      ((Fault.graph g).explained wrap).Alike ((Fault.graph g').explained wrap') := by
    have ha : (Fault.graph (wrap g)).Alike (.graph (wrap' g')) :=
      congrArg Fault.graph (hw g g' hg)
    exact ha.settled
  by_cases hf : ∃ g, f = .graph g
  · obtain ⟨g, rfl⟩ := hf
    cases f' with
    | graph g' => exact hgraph (Fault.graph.inj h)
    | _ => cases h
  · have hf' : ∀ g', f' ≠ .graph g' := by
      rintro g' rfl
      cases f with
      | graph g => exact hf ⟨g, rfl⟩
      | _ => cases h
    have he {f : Fault} {wrap : GraphFault → GraphFault} (hn : ∀ g, f ≠ .graph g) :
        f.explained wrap = f := by
      cases f with
      | graph g => exact absurd rfl (hn g)
      | _ => rfl
    rw [he fun g hg => hf ⟨g, hg⟩, he hf']
    exact h

section Parsing

variable {ρ : Renaming} {s : Scope} {h h' : Objects}

namespace Form

instance : Carries NodeParts where
  rename ρ n := ⟨n.type, rename ρ n.parameters, rename ρ n.flow⟩
  Within s n := Within s n.parameters ∧ Within s n.flow
  mono hs h := ⟨Carries.mono hs h.1, Carries.mono hs h.2⟩
  congr hs h := by rw [Carries.congr hs h.1, Carries.congr hs h.2]
  same n := by rw [Carries.same, Carries.same]

/-- The same violations, or parts that are renamed alike. -/
def Checks {α : Type} [Carries α] (ρ : Renaming) (s : Scope) : Checked α → Checked α → Prop
  | .ok a, .ok a' => Within s a ∧ a' = rename ρ a
  | .error vs, .error vs' => vs' = vs
  | _, _ => False

section Combined

variable {α β γ : Type} [Carries α] [Carries β] [Carries γ] {c c' : Checked α} {d d' : Checked β}

theorem Checks.split (h : Checks ρ s c c') :
    (∃ a, c = .ok a ∧ c' = .ok (rename ρ a) ∧ Within s a) ∨
      ∃ vs, c = .error vs ∧ c' = .error vs := by
  cases c with
  | error vs =>
    cases c' with
    | error vs' => exact .inr ⟨vs, rfl, congrArg Except.error (show vs' = vs from h)⟩
    | ok a' => exact h.elim
  | ok a =>
    cases c' with
    | error vs' => exact h.elim
    | ok a' => exact .inl ⟨a, rfl, congrArg Except.ok h.2, h.1⟩

theorem Checks.within (hc : Checks ρ s c c') (steps : List Step) :
    Checks ρ s (c.within steps) (c'.within steps) := by
  obtain ⟨a, rfl, rfl, ha⟩ | ⟨vs, rfl, rfl⟩ := hc.split
  · exact ⟨ha, rfl⟩
  · rfl

theorem Checks.named {κ : Type} (t : Checked κ) (hc : Checks ρ s c c') :
    Checks ρ s (t.both c) (t.both c') := by
  obtain ⟨a, rfl, rfl, ha⟩ | ⟨vs, rfl, rfl⟩ := hc.split
  · cases t with
    | ok k => exact ⟨ha, rfl⟩
    | error us => rfl
  · cases t <;> rfl

theorem Checks.both (hc : Checks ρ s c c') (hd : Checks ρ s d d') {f : α × β → γ}
    (hf : ∀ a b, Within s a → Within s b →
      Within s (f (a, b)) ∧ f (rename ρ a, rename ρ b) = rename ρ (f (a, b))) :
    Checks ρ s ((c.both d).map f) ((c'.both d').map f) := by
  obtain ⟨a, rfl, rfl, ha⟩ | ⟨vs, rfl, rfl⟩ := hc.split
  · obtain ⟨b, rfl, rfl, hb⟩ | ⟨ws, rfl, rfl⟩ := hd.split
    · exact hf a b ha hb
    · rfl
  · obtain ⟨b, rfl, rfl, -⟩ | ⟨ws, rfl, rfl⟩ := hd.split <;> rfl

theorem Checks.beside {κ : Type} (hc : Checks ρ s c c') (t : Checked κ) {f : α × κ → γ}
    (hf : ∀ a k, Within s a → Within s (f (a, k)) ∧ f (rename ρ a, k) = rename ρ (f (a, k))) :
    Checks ρ s ((c.both t).map f) ((c'.both t).map f) := by
  obtain ⟨a, rfl, rfl, ha⟩ | ⟨vs, rfl, rfl⟩ := hc.split
  · cases t with
    | ok k => exact hf a k ha
    | error us => rfl
  · cases t <;> rfl

end Combined

theorem nonemptyText_rename (ρ : Renaming) (field : Option Value) :
    nonemptyText (rename ρ field) = nonemptyText field := by
  cases field with
  | none => rfl
  | some v =>
    cases v with
    | ref a => rfl
    | scalar a => cases a <;> rfl

theorem optionalObject_rename (hm : Objects.Mirrors ρ s h h') {field : Option Value}
    (hf : Within s field) :
    Checks ρ s (optionalObject h field) (optionalObject h' (rename ρ field)) := by
  cases field with
  | none => exact ⟨within_none s, rfl⟩
  | some v =>
    have hv : Within s v := within_some.1 hf
    by_cases hn : v = .null
    · subst hn
      exact ⟨within_none s, rfl⟩
    · have hn' : rename ρ v ≠ .null := by
        cases v with
        | ref a => simp
        | scalar a => cases a <;> simp_all [rename_scalar_of_not_float]
      have ho {g : Objects} {w : Value} (hw : w ≠ .null) : optionalObject g (some w) =
          (objectOf g w).map fun _ => some w := by
        rw [optionalObject]
        exact fun hc => hw hc
      rw [rename_some, ho hn, ho hn', objectOf, objectOf, hm.entries?_rename hv]
      cases h.entries? v with
      | none => rfl
      | some es => exact ⟨hf, rfl⟩

theorem checkNode_rename (hm : Objects.Mirrors ρ s h h') (form : Form) {v : Value}
    (hv : Within s v) : Checks ρ s (checkNode h form v) (checkNode h' form (rename ρ v)) := by
  unfold checkNode
  rw [hm.entries?_rename hv]
  have hes := hm.within_entries? hv
  cases hf : h.entries? v with
  | none => rfl
  | some fields =>
    rw [hf] at hes
    have hfields : Within s fields := within_some.1 hes
    have hps := optionalObject_rename hm (Entries.within_get? hfields "parameters")
    have hfl := optionalObject_rename hm (Entries.within_get? hfields "flow")
    simp only [rename_some, field, Entries.get?_rename, nonemptyText_rename]
    exact ((hps.within _).named _).both (hfl.within _) fun a b ha hb => ⟨⟨ha, hb⟩, rfl⟩

theorem checkNodesFrom_rename (hm : Objects.Mirrors ρ s h h') (form : Form) {items : List Value}
    (hitems : Within s items) (i : Nat) : Checks ρ s (checkNodesFrom h form i items)
      (checkNodesFrom h' form i (rename ρ items)) := by
  induction items generalizing i with
  | nil => exact ⟨within_nil s, rfl⟩
  | cons v vs ih =>
    obtain ⟨hv, hvs⟩ := within_cons.1 hitems
    rw [rename_cons, checkNodesFrom, checkNodesFrom]
    exact ((checkNode_rename hm form hv).within _).both (ih hvs (i + 1)) fun a b ha hb =>
      ⟨within_cons.2 ⟨ha, hb⟩, rfl⟩

theorem checkNodes_rename (hm : Objects.Mirrors ρ s h h') (form : Form) {field : Option Value}
    (hf : Within s field) :
    Checks ρ s (checkNodes h form field) (checkNodes h' form (rename ρ field)) := by
  cases field with
  | none => rfl
  | some v =>
    have hv : Within s v := within_some.1 hf
    have hw := hm.within_items? hv
    simp only [rename_some, checkNodes, hm.items?_rename hv]
    cases hitems : h.items? v with
    | none => rfl
    | some items =>
      rw [hitems] at hw
      exact checkNodesFrom_rename hm form (within_some.1 hw) 0

theorem integerOr_rename (ρ : Renaming) (default : Int) (field : Option Value) :
    integerOr default (rename ρ field) = integerOr default field := by
  cases field with
  | none => rfl
  | some v =>
    cases v with
    | ref a => rfl
    | scalar a => cases a <;> rfl

theorem optionalText_rename (ρ : Renaming) (field : Option Value) :
    optionalText (rename ρ field) = optionalText field := by
  cases field with
  | none => rfl
  | some v =>
    cases v with
    | ref a => rfl
    | scalar a => cases a <;> rfl

instance : Carries GraphParts where
  rename ρ g := ⟨g.entry, rename ρ g.nodes, g.name⟩
  Within s g := Within s g.nodes
  mono hs h := Carries.mono (α := List NodeParts) hs h
  congr hs h := by rw [Carries.congr hs h]
  same g := by rw [Carries.same]

theorem ofFields_rename (hm : Objects.Mirrors ρ s h h') {fields : Entries Value}
    (hfields : Within s fields) : Checks ρ s (checkGraph.ofFields h fields)
      (checkGraph.ofFields h' (rename ρ fields)) := by
  have hnodes := checkNodes_rename hm .node (Entries.within_get? hfields "nodes")
  simp only [checkGraph.ofFields, field, Entries.get?_rename, integerOr_rename,
    optionalText_rename]
  exact ((hnodes.within _).named _).beside _ fun _ _ ha => ⟨ha, rfl⟩

theorem checkGraph_rename (hm : Objects.Mirrors ρ s h h') {v : Value} (hv : Within s v) :
    Checks ρ s (checkGraph h v) (checkGraph h' (rename ρ v)) := by
  have hw := hm.within_find? hv
  unfold checkGraph
  rw [hm.find?_rename hv]
  cases hf : h.find? v with
  | none => rfl
  | some c =>
    rw [hf] at hw
    cases c with
    | array items =>
      have hnodes : Within s [((↑"nodes" : Text), v)] := within_cons.2 ⟨hv, within_nil s⟩
      exact ofFields_rename hm hnodes
    | object fields => exact ofFields_rename hm (within_object.1 (within_some.1 hw))

end Form

theorem fieldEntries_rename (hm : Objects.Mirrors ρ s h h') {field : Option Value}
    (hf : Within s field) :
    ((rename ρ field).bind h'.entries?).getD [] = rename ρ ((field.bind h.entries?).getD []) ∧
      Within s ((field.bind h.entries?).getD []) := by
  cases field with
  | none => exact ⟨rfl, within_nil s⟩
  | some v =>
    have hv : Within s v := within_some.1 hf
    have hw := hm.within_entries? hv
    simp only [rename_some, Option.bind_some, hm.entries?_rename hv]
    cases he : h.entries? v with
    | none => exact ⟨rfl, within_nil s⟩
    | some es =>
      rw [he] at hw
      exact ⟨rfl, within_some.1 hw⟩

theorem Parameter.ofValue_rename (hm : Objects.Mirrors ρ s h h') {v : Value} (hv : Within s v) :
    Matches ρ s (Parameter.ofValue h v) (Parameter.ofValue h' (rename ρ v)) := by
  have hw := hm.within_entries? hv
  unfold Parameter.ofValue
  rw [hm.entries?_rename hv]
  cases he : h.entries? v with
  | none => exact ⟨hv, rfl⟩
  | some es =>
    rw [he] at hw
    have hes : Within s es := within_some.1 hw
    simp only [rename_some, Entries.get?_rename]
    have hindex := Entries.within_get? hes "$node"
    cases hn : Entries.get? "$node" es with
    | none => exact ⟨hv, rfl⟩
    | some index =>
      rw [hn] at hindex
      have ha : (Fault.graph (.referenceIndex (h.unfold index))).Alike
          (.graph (.referenceIndex (h'.unfold (rename ρ index)))) := by
        have hu := hm.unmarked_unfold (within_some.1 hindex)
        exact congrArg (fun u => Fault.graph (.referenceIndex u)) hu
      cases index with
      | ref a => exact ha.settled
      | scalar b =>
        cases b with
        | int n =>
          cases hs : Entries.get? "socket" es with
          | none => exact .refl _
          | some socket =>
            cases socket with
            | ref a => exact .refl _
            | scalar c =>
              cases c with
              | text x =>
                by_cases hx : x = ""
                · subst hx
                  exact .refl _
                · simp only [rename_some, rename_scalar, rename_scalar_of_not_float, ne_eq,
                    reduceCtorEq, not_false_eq_true, implies_true, hx, ↓reduceIte]
                  exact ⟨⟨within_int s n, within_text s x⟩, rfl⟩
              | _ => exact .refl _
        | _ => exact ha.settled

theorem Parameter.ofDraft_rename (hm : Objects.Mirrors ρ s h h') {d : Draft} (hd : Within s d) :
    Matches ρ s (Parameter.ofDraft h d) (Parameter.ofDraft h' (rename ρ d)) := by
  cases d with
  | tagged p => exact ⟨hd, rfl⟩
  | untagged v => exact Parameter.ofValue_rename hm hd

theorem Parameter.ofDrafts_rename (hm : Objects.Mirrors ρ s h h') {ds : List (Text × Draft)}
    (hd : Within s ds) :
    Matches ρ s (Parameter.ofDrafts h ds) (Parameter.ofDrafts h' (rename ρ ds)) := by
  induction ds with
  | nil => exact ⟨within_nil s, rfl⟩
  | cons d ds ih =>
    obtain ⟨hd, hds⟩ := within_cons.1 hd
    refine (Parameter.ofDraft_rename hm hd).bind fun p hp => ?_
    refine (ih hds).bind fun ps hps => ?_
    exact ⟨within_cons.2 ⟨hp, hps⟩, rfl⟩

namespace Node

theorem build_rename (hm : Objects.Mirrors ρ s h h') {type : Value}
    {ds : List (Text × Draft)} {flow : Flow} (ht : Within s type) (hd : Within s ds)
    (hf : Within s flow) : Matches ρ s (build h type ds flow)
      (build h' (rename ρ type) (rename ρ ds) (rename ρ flow)) := by
  unfold build
  obtain ⟨ps, hr, hr', hw⟩ | ⟨f, f', hr, hr', ha⟩ := (Parameter.ofDrafts_rename hm hd).split
  · rw [hr, hr']
    exact ⟨⟨ht, hw, hf⟩, rfl⟩
  · rw [hr, hr']
    have hu := hm.unmarked_unfold ht
    refine Fault.Alike.explained ha fun g g' hg => ?_
    simp only [GraphFault.unmarked, hg, hu]

theorem ofParts_matches (hm : Objects.Mirrors ρ s h h') {parts parts' : Form.NodeParts}
    (hp : Within s parts) (htype : parts'.type = parts.type)
    (hps : (parts'.parameters.bind h'.entries?).getD [] =
      rename ρ ((parts.parameters.bind h.entries?).getD []))
    (hfl : (parts'.flow.bind h'.entries?).getD [] =
      rename ρ ((parts.flow.bind h.entries?).getD [])) :
    Matches ρ s (ofParts h parts) (ofParts h' parts') := by
  have hwps := (fieldEntries_rename hm hp.1).2
  have hwfl := (fieldEntries_rename hm hp.2).2
  have hds (es : Entries Value) : (rename ρ es).map (fun p => (p.1, Draft.untagged p.2)) =
      rename ρ (es.map fun p => (p.1, Draft.untagged p.2)) := by
    simp only [rename_pairs, List.map_map]
    rfl
  unfold ofParts
  simp only [htype, hps, hfl, hds]
  exact build_rename hm (within_text s _) (List.forall_mem_map.2 hwps) hwfl

theorem ofParts_rename (hm : Objects.Mirrors ρ s h h') {parts : Form.NodeParts}
    (hp : Within s parts) : Matches ρ s (ofParts h parts) (ofParts h' (rename ρ parts)) :=
  ofParts_matches hm hp rfl (fieldEntries_rename hm hp.1).1 (fieldEntries_rename hm hp.2).1

theorem parse_rename (hm : Objects.Mirrors ρ s h h') {source : NodeSource}
    (hs : Within s source) : Matches ρ s (parse h source) (parse h' (rename ρ source)) := by
  cases source with
  | assembled type ds flow => exact build_rename hm hs.1 hs.2.1 hs.2.2
  | record v =>
    have hr : rename ρ (NodeSource.record v) = .record (rename ρ v) := rfl
    rw [hr, parse, parse]
    obtain ⟨parts, hr, hr', hw⟩ | ⟨vs, hr, hr'⟩ := (Form.checkNode_rename hm .node hs).split
    · rw [hr, hr']
      exact ofParts_rename hm hw
    · rw [hr, hr']
      exact Fault.Alike.refl _

theorem eachFrom_matches {α β : Type} {parse : α → Except Fault Node}
    {parse' : β → Except Fault Node} {as : List α} {bs : List β}
    (hall : List.Forall₂ (fun a b => Matches ρ s (parse a) (parse' b)) as bs) (i : Nat) :
    Matches ρ s (eachFrom parse i as) (eachFrom parse' i bs) := by
  induction hall generalizing i with
  | nil => exact ⟨within_nil s, rfl⟩
  | cons ha _ ih =>
    rw [eachFrom, eachFrom]
    obtain ⟨n, hr, hr', hn⟩ | ⟨f, f', hr, hr', hf⟩ := ha.split
    · rw [hr, hr']
      refine (ih (i + 1)).bind fun ns hns => ?_
      exact ⟨within_cons.2 ⟨hn, hns⟩, rfl⟩
    · rw [hr, hr']
      refine Fault.Alike.explained hf fun g g' hg => ?_
      simp only [GraphFault.unmarked, hg]

theorem eachFrom_rename {α : Type} [Carries α] {parse parse' : α → Except Fault Node}
    (hparse : ∀ a, Within s a → Matches ρ s (parse a) (parse' (rename ρ a))) {as : List α}
    (has : Within s as) (i : Nat) :
    Matches ρ s (eachFrom parse i as) (eachFrom parse' i (rename ρ as)) :=
  eachFrom_matches (List.forall₂_map_right_iff.2
    (List.forall₂_same.2 fun a ha => hparse a (has a ha))) i

theorem sources_rename (hm : Objects.Mirrors ρ s h h') {submitted : Submission}
    (hs : Within s submitted) :
    Matches ρ s (sources h submitted) (sources h' (rename ρ submitted)) := by
  cases submitted with
  | list sources => exact ⟨hs, rfl⟩
  | value v =>
    have texts (ks : List Text) :
        Within s (ks.map fun k => NodeSource.record (.text k)) ∧
        ks.map (fun k => NodeSource.record (.text k)) =
          rename ρ (ks.map fun k => NodeSource.record (.text k)) := by
      refine ⟨List.forall_mem_map.2 fun k _ => within_text s k, ?_⟩
      rw [rename_list, List.map_map]
      rfl
    cases v with
    | ref a =>
      have hc := hm.cell a hs
      have hw := hm.within a hs
      show Matches ρ s (sources h (.value (.ref a))) (sources h' (.value (.ref (ρ.cell a))))
      simp only [sources, Objects.find?, hc]
      cases hcell : h.cell a with
      | array items =>
        rw [hcell] at hw
        refine ⟨List.forall_mem_map.2 hw, ?_⟩
        simp only [rename_list, List.map_map]
        rfl
      | object entries =>
        rw [rename_object]
        simp only [Entries.keys_rename]
        exact texts entries.keys
    | scalar a =>
      cases a with
      | text x =>
        have hx := texts (x.points.map fun c => ⟨[c]⟩)
        rw [List.map_map] at hx
        exact hx
      | _ => exact Fault.Alike.refl _

theorem parseAll_rename (hm : Objects.Mirrors ρ s h h') {submitted : Submission}
    (hs : Within s submitted) :
    Matches ρ s (parseAll h submitted) (parseAll h' (rename ρ submitted)) :=
  (sources_rename hm hs).bind fun _ has => eachFrom_rename (fun _ ha => parse_rename hm ha) has 0

end Node

namespace Graph

instance : Carries Graph where
  rename ρ g := ⟨rename ρ g.nodes, g.entry, g.name⟩
  Within s g := Within s g.nodes
  mono hs h := Carries.mono (α := List Node) hs h
  congr hs h := by rw [Carries.congr hs h]
  same g := by rw [Carries.same]

theorem ofParts_rename (hm : Objects.Mirrors ρ s h h') {parts : Form.GraphParts}
    (hp : Within s parts) : Matches ρ s (ofParts h parts) (ofParts h' (rename ρ parts)) :=
  (Node.eachFrom_rename (fun _ ha => Node.ofParts_rename hm ha) hp 0).bind
    fun _ hns => ⟨hns, rfl⟩

theorem parse_rename (hm : Objects.Mirrors ρ s h h') {v : Value} (hv : Within s v) :
    Matches ρ s (parse h v) (parse h' (rename ρ v)) := by
  unfold parse
  obtain ⟨parts, hr, hr', hw⟩ | ⟨vs, hr, hr'⟩ := (Form.checkGraph_rename hm hv).split
  · rw [hr, hr']
    exact ofParts_rename hm hw
  · rw [hr, hr']
    exact Fault.Alike.refl _

end Graph
end Parsing
end NodeWalk
