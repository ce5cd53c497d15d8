import NodeWalk.Proofs.Reading
import NodeWalk.Proofs.WritingRuns

set_option autoImplicit false

/-!
# Interpreters that take the same turns

Of its registry a run asks nothing but the types of its nodes, and a ceiling shows only where it
is reached. So interpreters that agree on the types and have room for the same turns run alike.
-/
namespace NodeWalk

namespace Node

variable {r r' : Registry} {n : Node}

theorem Visit.behavior_congr {v : Visit} (h : r.get? v.type = r'.get? v.type) :
    v.behavior r = v.behavior r' := by
  unfold behavior
  cases hp : NodeType.split v.type with
  | error f => rfl
  | ok p =>
    have hlookup : r.lookup p.1 p.2 = r'.lookup p.1 p.2 := by
      unfold Registry.lookup
      dsimp only
      rw [NodeType.type_of_split hp, h]
    simp only [bind, Except.bind, hlookup]

theorem run_prepare_congr (h : ∀ type, n.type = .text type → r.get? type = r'.get? type)
    (access : Access) (record : Record) (index : Nat) (t : Store) :
    (prepare r access record index n).run t = (prepare r' access record index n).run t := by
  unfold prepare
  rw [run_bind_ok (StoreM.run_objects t), run_bind_ok (StoreM.run_objects t)]
  cases htype : NodeType.ofValue t.objects n.type with
  | error f =>
    rw [run_bind_error (StoreM.run_ofExcept_error f t),
      run_bind_error (StoreM.run_ofExcept_error f t)]
  | ok type =>
    have htext : n.type = .text type := by
      unfold NodeType.ofValue at htype
      split at htype
      · cases htype
        assumption
      · cases htype
    rw [run_bind_ok (StoreM.run_ofExcept_ok type t), run_bind_ok (StoreM.run_ofExcept_ok type t)]
    dsimp only
    rw [Visit.behavior_congr (v := ⟨index, type⟩) (h type htext)]

end Node

namespace Interpreter

variable {i j : Interpreter} {nodes : List Node} {steps : Nat}

theorem run_turn_congr (haccess : i.access = j.access)
    (htypes : ∀ n ∈ nodes, ∀ type, n.type = .text type →
      i.registry.get? type = j.registry.get? type)
    (hi : i.HasRoom steps) (hj : j.HasRoom steps) (c : Value) (t : Session) :
    (i.turn nodes steps c).run t = (j.turn nodes steps c).run t := by
  have happroach : (i.approachOn nodes steps c t.record).run t.store =
      (j.approachOn nodes steps c t.record).run t.store := by
    unfold approachOn
    rw [run_bind_ok (run_checkCeiling hi c t.store), run_bind_ok (run_checkCeiling hj c t.store),
      run_bind, run_bind, run_nodeAt]
    cases hfind : find? nodes c with
    | none => rfl
    | some p =>
      have hmem : p.2 ∈ nodes := List.mem_of_getElem? (find?_eq_some_iff.1 hfind).2
      dsimp only
      rw [Node.run_prepare_congr (htypes p.2 hmem), haccess]
  rw [run_turn, run_turn, run_approach, run_approach, happroach]

theorem run_eq_of_alike {turns : Nat} {entry : Value} {s : Session} {submitted : Submission}
    (h : ∀ nodes, Node.parseAll s.store.objects submitted = .ok nodes →
      TurnsAlike i j nodes turns) :
    i.run turns entry submitted s = j.run turns entry submitted s := by
  cases hs : (start entry submitted).run s with
  | mk started t =>
    cases started with
    | error f => rw [run_of_start_error hs, run_of_start_error hs]
    | ok nodes =>
      cases hr : i.run turns entry submitted s with
      | mk e u =>
        obtain ⟨w, hw, hc⟩ := stops_of_run hs hr
        rw [run_of_stops hs ((h nodes (start_ok hs).1).stops hw (Nat.le_refl turns)), hc]

end Interpreter
end NodeWalk
