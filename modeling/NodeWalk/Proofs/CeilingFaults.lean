import NodeWalk.Proofs.PointerFaults
import NodeWalk.Proofs.RaisedFaults
import NodeWalk.Proofs.WritingRuns

set_option autoImplicit false

/-!
# Who raises the fault of a ceiling

Only the check of a ceiling raises the fault of one. So a run of built-in nodes without a ceiling
never fails with it, whatever else it fails with.
-/
namespace NodeWalk

def Fault.Unlimited : Fault → Prop
  | .stepLimit _ => False
  | _ => True

theorem Fault.Unlimited.ne {f : Fault} (hf : f.Unlimited) (limit : Scalar) :
    f ≠ .stepLimit limit := by
  rintro rfl
  exact hf

theorem Fault.Unlimited.settled {f : Fault} (hf : f.Unlimited) : f.settled.Unlimited := by
  unfold Fault.settled
  split
  · exact hf
  · trivial

/-- If there is no result, the fault is not that of a ceiling. -/
def FailsFree {α : Type} (r : Except Fault α) : Prop := ∀ f, r = .error f → f.Unlimited

namespace FailsFree

variable {α β : Type}

theorem ok (a : α) : FailsFree (.ok a) := fun _ h => nomatch h

theorem error {f : Fault} (hf : f.Unlimited) : FailsFree (.error f : Except Fault α) := by
  intro g hg
  cases hg
  exact hf

theorem bind {r : Except Fault α} {k : α → Except Fault β} (hr : FailsFree r)
    (hk : ∀ a, FailsFree (k a)) : FailsFree (r >>= k) := by
  intro f hf
  obtain hfirst | ⟨a, -, hsecond⟩ := bind_error_iff.1 hf
  · exact hr f hfirst
  · exact hk a f hsecond

theorem ofExcept {r : Except Fault α} (hr : FailsFree r) :
    FailsOnly Fault.Unlimited (StoreM.ofExcept r) := by
  cases r with
  | ok a => exact .pure a
  | error f => exact .throw (hr f rfl).settled

end FailsFree

theorem failsOnly_fail {α : Type} {f : Fault} (hf : f.Unlimited) :
    FailsOnly Fault.Unlimited (StoreM.fail f : StoreM α) := .throw hf.settled

namespace Objects

variable (h : Objects)

theorem Computed.Ends.failsFree {h : Objects} {v w : Value} {r : Computed} (hr : r.Ends h v w) :
    FailsFree r := by
  rintro f rfl
  cases hr with
  | fault due =>
    cases f with
    | stepLimit limit => exact due
    | _ => trivial

theorem failsFree_equal (v w : Value) : FailsFree (h.equal v w) := by
  unfold equal
  split
  · exact .ok _
  · exact .error trivial

theorem failsFree_firstDifference (vs ws : List Value) : FailsFree (h.firstDifference vs ws) := by
  fun_induction firstDifference h vs ws with
  | case1 v vs w ws ih =>
    have hsame : FailsFree (h.sameItem v w) := by
      unfold sameItem
      split
      · exact .ok _
      · exact h.failsFree_equal v w
    refine hsame.bind fun same => ?_
    split
    · exact ih
    · exact .ok _
  | case2 vs ws => exact .ok _

theorem failsFree_orderedWithin (op : Comparison) (depth : Nat) (v w : Value) :
    FailsFree (h.orderedWithin op depth v w) := by
  fun_induction orderedWithin h op depth v w with
  | case1 => exact .error trivial
  | case2 => exact .ok _
  | case3 => exact .error trivial
  | case4 _ _ _ _ vs ws _ _ ih =>
    refine (h.failsFree_firstDifference vs ws).bind fun p => ?_
    split
    · exact ih _ _
    · exact .ok _
  | case5 => exact .error trivial

theorem failsFree_compares (op : Comparison) (v w : Value) : FailsFree (h.compares op v w) := by
  unfold compares
  split
  · exact h.failsFree_equal v w
  · intro f hf
    cases he : h.equal v w with
    | ok b => rw [he] at hf; cases hf
    | error g =>
      rw [he] at hf
      cases hf
      exact h.failsFree_equal v w f he
  · exact h.failsFree_orderedWithin op _ v w

end Objects

namespace Document

theorem Refused.unlimited {path : Text} {met : Text → Prop} {f : Fault}
    (hf : Refused path met f) : f.Unlimited := by
  cases hf <;> trivial

theorem failsFree_ofValue (h : Objects) (path : Value) : FailsFree (Pointer.ofValue h path) := by
  unfold Pointer.ofValue
  split
  · exact .ok _
  · exact .error trivial

theorem failsFree_get (s : Store) (path : Value) : FailsFree (get s.objects s.root path) := by
  intro f hf
  by_cases htext : ∃ text, path = .text text
  · obtain ⟨text, rfl⟩ := htext
    exact (refused_of_get hf).unlimited
  · obtain hvalue | ⟨text, hvalue, -⟩ := bind_error_iff.1 hf
    · exact failsFree_ofValue s.objects path f hvalue
    · unfold Pointer.ofValue at hvalue
      split at hvalue
      · exact absurd ⟨_, rfl⟩ htext
      · cases hvalue

theorem failsOnly_set (path w : Value) : FailsOnly Fault.Unlimited (set path w) := by
  intro s f t hf
  by_cases htext : ∃ text, path = .text text
  · obtain ⟨text, rfl⟩ := htext
    obtain hrefused | ⟨rfl, -⟩ := refused_of_set hf
    · exact hrefused.unlimited
    · trivial
  · obtain hobjects | ⟨h, s₁, hobjects, hrest⟩ := error_of_bind hf
    · exact FailsOnly.objects s f t hobjects
    · obtain hvalue | ⟨text, s₂, hvalue, -⟩ := error_of_bind hrest
      · exact (failsFree_ofValue h path).ofExcept s₁ f t hvalue
      · unfold Pointer.ofValue at hvalue
        split at hvalue
        · exact absurd ⟨_, rfl⟩ htext
        · cases hvalue

end Document

namespace Call

theorem failsOnly_entry (v : Value) (key : Text) : FailsOnly Fault.Unlimited (entry v key) := by
  refine FailsOnly.objects.bind fun h => ?_
  split
  · exact .pure _
  · exact failsOnly_fail trivial

theorem failsOnly_required (c : Call) (key : Text) :
    FailsOnly Fault.Unlimited (c.required key) := by
  refine FailsOnly.objects.bind fun h => ?_
  split
  · split
    · exact .pure _
    · exact failsOnly_fail trivial
  · exact failsOnly_fail trivial

theorem failsOnly_getDocument (c : Call) (path : Value) :
    FailsOnly Fault.Unlimited (c.getDocument path) := by
  unfold getDocument
  split
  · intro s f t hf
    rw [run_bind_ok (StoreM.run_get s)] at hf
    exact (Document.failsFree_get s path).ofExcept s f t hf
  · exact failsOnly_fail trivial

theorem failsOnly_setDocument (c : Call) (path w : Value) :
    FailsOnly Fault.Unlimited (c.setDocument path w) := by
  unfold setDocument
  split
  · exact Document.failsOnly_set path w
  · exact failsOnly_fail trivial

theorem failsOnly_finish (result : Entries Value) (next : Value) :
    FailsOnly Fault.Unlimited (finish result next) :=
  (FailsOnly.extend _).bind fun _ => .pure _

end Call

namespace BuiltIn

open Call

theorem failsOnly_putOut (c : Call) (v : Value) : FailsOnly Fault.Unlimited (putOut c v) :=
  (failsOnly_entry c.flow "next").bind fun _ => failsOnly_finish _ _

theorem failsOnly_computed {operation : Objects → Objects.Computed} {a b : Value}
    (ho : ∀ h, (operation h).Ends h a b) (c : Call) : FailsOnly Fault.Unlimited (do
      let (v, h) ← StoreM.ofExcept (operation (← StoreM.objects))
      StoreM.setObjects h
      putOut c v) := by
  refine FailsOnly.objects.bind fun h => (ho h).failsFree.ofExcept.bind fun r => ?_
  intro s f t hf
  rw [run_bind_ok (StoreM.run_setObjects r.2 s)] at hf
  exact failsOnly_putOut c r.1 _ f t hf

theorem failsOnly_binary {operation : Objects → Value → Value → Objects.Computed}
    (ho : ∀ h v w, (operation h v w).Ends h v w) (c : Call) :
    FailsOnly Fault.Unlimited (binary operation c) :=
  (failsOnly_required c "a").bind fun a => (failsOnly_required c "b").bind fun b =>
    failsOnly_computed (fun h => ho h a b) c

theorem failsFree_comparison (h : Objects) (op : Value) : FailsFree (comparison h op) := by
  unfold comparison
  split
  · split
    · exact .ok _
    · exact .error trivial
  · exact .error trivial
  · exact .error trivial

theorem failsOnly_compare (c : Call) : FailsOnly Fault.Unlimited (compare.behave c) :=
  FailsOnly.objects.bind fun h => (failsFree_comparison h _).ofExcept.bind fun op =>
    (failsOnly_required c "a").bind fun a => (failsOnly_required c "b").bind fun b =>
      (h.failsFree_compares op a b).ofExcept.bind fun _ => failsOnly_putOut c _

theorem failsOnly_branch (c : Call) : FailsOnly Fault.Unlimited (branch.behave c) :=
  (failsOnly_entry c.parameters "condition").bind fun _ => FailsOnly.objects.bind fun _ =>
    (failsOnly_entry c.flow _).bind fun _ => failsOnly_finish _ _

theorem failsOnly_worldSet (c : Call) : FailsOnly Fault.Unlimited (worldSet.behave c) :=
  (failsOnly_required c "path").bind fun path =>
    (failsOnly_entry c.parameters "value").bind fun w =>
      (failsOnly_setDocument c path w).bind fun _ => (failsOnly_entry c.flow "next").bind fun _ =>
        failsOnly_finish _ _

theorem failsOnly_behave {type : Text} {b : Registered}
    (hb : Registry.builtIn.get? type = some b) (c : Call) :
    FailsOnly Fault.Unlimited (b.behave c) := by
  cases Registry.named_of_get? hb with
  | const => exact (failsOnly_entry c.parameters "value").bind fun _ => failsOnly_putOut c _
  | add => exact failsOnly_binary Objects.ends_add c
  | sub => exact failsOnly_binary Objects.ends_sub c
  | mul => exact failsOnly_binary Objects.ends_mul c
  | double =>
    exact (failsOnly_required c "x").bind fun x =>
      failsOnly_computed (fun h => h.ends_mul x (.int 2)) c
  | compare => exact failsOnly_compare c
  | branch => exact failsOnly_branch c
  | noop => exact (failsOnly_entry c.flow "next").bind fun _ => failsOnly_finish _ _
  | worldGet =>
    exact (failsOnly_required c "path").bind fun path =>
      (failsOnly_getDocument c path).bind fun _ => failsOnly_putOut c _
  | worldSet => exact failsOnly_worldSet c

end BuiltIn

theorem Fault.Unlimited.explained {f : Fault} (hf : f.Unlimited) (wrap : GraphFault → GraphFault) :
    (f.explained wrap).Unlimited := by
  unfold Fault.explained
  split
  · exact settled trivial
  · exact hf

namespace Parameter

theorem failsFree_ofValue (h : Objects) (v : Value) : FailsFree (ofValue h v) := by
  have graph (f : GraphFault) : FailsFree (.error (Fault.graph f).settled : Except _ Parameter) :=
    .error (.settled trivial)
  unfold ofValue
  split
  · exact .ok _
  · split
    · exact .ok _
    · split
      · split
        · exact graph _
        · exact .ok _
      · exact graph _
    · exact graph _

theorem failsFree_ofDrafts (h : Objects) (ds : List (Text × Draft)) :
    FailsFree (ofDrafts h ds) := by
  induction ds with
  | nil => exact .ok _
  | cons d ds ih =>
    have first : FailsFree (ofDraft h d.2) := by
      unfold ofDraft
      split
      · exact .ok _
      · exact failsFree_ofValue h _
    exact first.bind fun _ => ih.bind fun _ => .ok _

end Parameter

namespace Node

theorem failsFree_build (h : Objects) (type : Value) (ds : List (Text × Draft)) (flow : Flow) :
    FailsFree (build h type ds flow) := by
  unfold build
  split
  · exact .ok _
  · rename_i f hf
    exact .error ((Parameter.failsFree_ofDrafts h ds f hf).explained _)

theorem failsFree_parse (h : Objects) (source : NodeSource) : FailsFree (parse h source) := by
  unfold parse
  split
  · exact failsFree_build h _ _ _
  · split
    · exact failsFree_build h _ _ _
    · exact .error trivial

theorem failsFree_parseAll (h : Objects) (submitted : Submission) :
    FailsFree (parseAll h submitted) := by
  have each (i : Nat) (sources : List NodeSource) : FailsFree (eachFrom (parse h) i sources) := by
    induction sources generalizing i with
    | nil => exact .ok _
    | cons source sources ih =>
      unfold eachFrom
      split
      · rename_i f hf
        exact .error ((failsFree_parse h source f hf).explained _)
      · exact (ih (i + 1)).bind fun _ => .ok _
  have listed : FailsFree (sources h submitted) := by
    unfold sources
    split
    · exact .ok _
    · split <;> first | exact .ok _ | exact .error trivial
  exact listed.bind (each 0)

end Node

theorem failsFree_entriesOf (h : Objects) (v : Value) : FailsFree (entriesOf h v) := by
  have parts (i : Nat) (v : Value) : FailsFree (entriesOf.parts h i v) := by
    unfold entriesOf.parts
    split <;> first | exact .ok _ | exact .error trivial
  have pairs (i : Nat) (vs : List Value) : FailsFree (entriesOf.pairsFrom h i vs) := by
    induction vs generalizing i with
    | nil => exact .ok _
    | cons v vs ih =>
      refine (parts i v).bind fun ws => ?_
      split
      · split
        · exact (ih (i + 1)).bind fun _ => .ok _
        · exact .error trivial
        · exact (ih (i + 1)).bind fun _ => .ok _
      · exact .error trivial
  unfold entriesOf
  split
  · exact .ok _
  · exact (pairs 0 _).bind fun _ => .ok _
  · split
    · exact .ok _
    · exact .error trivial
  · exact .error trivial

namespace Node

namespace Visit

theorem failsFree_key (h : Objects) (entity node socket : Value) :
    FailsFree (Key.ofValues h entity node socket) := by
  have part (v : Value) : FailsFree (Key.ofValues.part h v) := by
    unfold Key.ofValues.part
    split
    · exact .ok _
    · exact .error trivial
  exact (part entity).bind fun _ => (part node).bind fun _ => (part socket).bind fun _ => .ok _

theorem unlimited_resolve (r : Record) (name : Text) (p : Parameter) :
    FailsOnly Fault.Unlimited (p.resolve r name) := by
  cases p with
  | literal v =>
    intro s f t h
    rw [Parameter.run_resolve_literal] at h
    cases h
  | reference node socket =>
    refine FailsOnly.objects.bind fun h => (failsFree_key h _ node socket).ofExcept.bind
      fun key => ?_
    split
    · exact .pure _
    · exact failsOnly_fail trivial

theorem unlimited_parameters (v : Visit) (n : Node) (r : Record) :
    FailsOnly Fault.Unlimited (v.parameters n r) := by
  have each (ps : List (Text × Parameter)) :
      FailsOnly Fault.Unlimited (resolveEach (Parameter.resolve r) ps) := by
    induction ps with
    | nil => exact .pure _
    | cons p ps ih => exact (unlimited_resolve r p.1 p.2).bind fun _ => ih.bind fun _ => .pure _
  refine (each n.parameters).rethrown fun f => ?_
  unfold reportMissing
  split
  · exact .report _
  · exact .pure _

theorem unlimited_call (n : Node) (access : Access) (ps : Entries Value) :
    FailsOnly Fault.Unlimited (call n access ps) := by
  have entries : FailsOnly Fault.Unlimited (flowEntries n.flow) := by
    unfold flowEntries
    split
    · exact .pure _
    · exact FailsOnly.objects.bind fun h => (failsFree_entriesOf h _).ofExcept
  exact (FailsOnly.extend _).bind fun _ => entries.bind fun _ => (FailsOnly.extend _).bind
    fun _ => .pure _

theorem unlimited_behavior (registry : Registry) (v : Visit) :
    FailsOnly Fault.Unlimited (v.behavior registry) := by
  unfold behavior
  split
  · exact .pure _
  · exact (FailsOnly.report _).bind fun _ => failsOnly_fail trivial

end Visit

theorem unlimited_prepare (registry : Registry) (access : Access) (r : Record) (index : Nat)
    (n : Node) : FailsOnly Fault.Unlimited (prepare registry access r index n) := by
  have type (h : Objects) : FailsFree (NodeType.ofValue h n.type) := by
    unfold NodeType.ofValue
    split
    · exact .ok _
    · exact .error trivial
  refine FailsOnly.objects.bind fun h => (type h).ofExcept.bind fun t => ?_
  refine (Visit.unlimited_behavior registry _).bind fun _ => ?_
  refine (Visit.unlimited_parameters _ n r).bind fun ps => ?_
  exact ((Visit.unlimited_call n access ps).rethrown fun _ => .report _).bind fun _ => .pure _

end Node

namespace Interpreter

variable {i : Interpreter} {nodes : List Node} {steps : Nat} {current : Value} {s t : Session}
  {f : Fault}

theorem unlimited_approach (hfree : i.ceiling = none) :
    FailsOnly Fault.Unlimited (i.approach nodes steps current) := by
  have ceiling : FailsOnly Fault.Unlimited (i.checkCeiling steps current) := by
    unfold checkCeiling
    rw [hfree]
    exact .pure _
  have node : FailsOnly Fault.Unlimited (nodeAt nodes current) := by
    unfold nodeAt
    split
    · exact .pure _
    · exact FailsOnly.objects.bind fun _ => failsOnly_fail trivial
  have together (r : Record) : FailsOnly Fault.Unlimited (i.approachOn nodes steps current r) :=
    ceiling.bind fun _ => node.bind fun p => Node.unlimited_prepare i.registry i.access r p.1 p.2
  intro s f t hf
  rw [run_approach] at hf
  exact together s.record s.store f _ (Prod.ext (Prod.mk.inj hf).1 rfl)

theorem unlimited_of_turn (hi : i.registry = .builtIn) (hfree : i.ceiling = none)
    (h : (i.turn nodes steps current).run s = (.error f, t)) : f.Unlimited := by
  cases failure_of_turn h with
  | @approach f _ _ _ uncalled =>
    exact unlimited_approach (i := i) hfree s f t (uncalled i.registry fun _ => rfl)
  | @raised f _ _ _ _ approach behaves _ _ =>
    obtain ⟨_, -, -, hfinds⟩ := visits_of_approach approach
    obtain ⟨p, -, hb⟩ := hfinds
    rw [hi] at hb
    exact BuiltIn.failsOnly_behave hb _ _ f _ behaves
  | unusable _ _ _ _ _ => trivial
  | unwritable _ _ _ _ _ _ => trivial

theorem unlimited_of_start {entry : Value} {submitted : Submission}
    (h : (start entry submitted).run s = (.error f, t)) : f.Unlimited := by
  rw [run_start] at h
  split at h
  · rename_i g hg
    cases h
    exact (Node.failsFree_parseAll s.store.objects submitted g hg).settled
  · split at h
    · cases h
      exact Fault.Unlimited.settled trivial
    · dsimp only at h
      split at h
      · cases h
      · cases h
        exact Fault.Unlimited.settled trivial

end Interpreter
end NodeWalk
