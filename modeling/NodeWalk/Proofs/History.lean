import Mathlib.Data.List.Induction
import NodeWalk.Proofs.Course
import NodeWalk.Proofs.NodeRecord
import NodeWalk.Proofs.Start
import NodeWalk.Proofs.Turn

set_option autoImplicit false

/-!
# The record as a view of the history

The record of a run holds what its evaluations have put out, for each socket what the
latest of them did. An evaluation that does not put out a socket leaves what was put
out there before.
-/
namespace NodeWalk

open Node (Evaluation)

/-- What the latest evaluation of a node that put out the socket put there. -/
def latest (es : List Evaluation) (j : Nat) (x : Text) : Option Value :=
  es.reverse.findSome? fun e => if e.index = j then Entries.last? x e.output.result else none

theorem latest_append (es : List Evaluation) (e : Evaluation) (j : Nat) (x : Text) :
    latest (es ++ [e]) j x =
      (if e.index = j then Entries.last? x e.output.result else none).or (latest es j x) := by
  unfold latest
  rw [List.reverse_append, List.reverse_singleton, List.singleton_append, List.findSome?_cons]
  cases (if e.index = j then Entries.last? x e.output.result else none) <;> rfl

theorem Entries.last?_eq_none_iff {α : Type} {x : Text} {es : Entries α} :
    Entries.last? x es = none ↔ x ∉ Entries.keys es := by
  induction es with
  | nil => simp [Entries.last?, Entries.keys]
  | cons e es ih =>
    obtain ⟨y, v⟩ := e
    have hkeys : Entries.keys ((y, v) :: es) = y :: Entries.keys es := rfl
    rw [Entries.last?, Option.or_eq_none_iff, ih, hkeys, List.mem_cons, not_or, and_comm]
    by_cases hy : y = x
    · simp [hy]
    · simp [hy, Ne.symm hy]

theorem latest_eq_some_iff {es : List Evaluation} {j : Nat} {x : Text} {v : Value} :
    latest es j x = some v ↔ ∃ before e after, es = before ++ e :: after ∧ e.index = j ∧
      Entries.last? x e.output.result = some v ∧
      ∀ e' ∈ after, e'.index = j → x ∉ Entries.keys e'.output.result := by
  induction es using List.reverseRecOn with
  | nil => simp [latest]
  | append_singleton es e ih =>
    rw [latest_append, Option.or_eq_some_iff, ih]
    constructor
    · rintro (hput | ⟨hnone, before, e', after, rfl, hj, hv, hafter⟩)
      · split at hput
        · rename_i hj
          exact ⟨es, e, [], rfl, hj, hput, fun _ he => nomatch he⟩
        · cases hput
      · refine ⟨before, e', after ++ [e], by simp, hj, hv, fun e'' he hj' => ?_⟩
        rcases List.mem_append.1 he with he | he
        · exact hafter e'' he hj'
        · obtain rfl := List.mem_singleton.1 he
          rw [if_pos hj'] at hnone
          exact Entries.last?_eq_none_iff.1 hnone
    · rintro ⟨before, e', after, he, hj, hv, hafter⟩
      rcases List.eq_nil_or_concat after with rfl | ⟨after, e'', rfl⟩
      · obtain ⟨-, he⟩ := List.append_inj' he rfl
        obtain rfl : e = e' := List.singleton_inj.1 he
        exact .inl (by rw [if_pos hj, hv])
      · rw [List.concat_eq_append] at he hafter
        rw [← List.cons_append, ← List.append_assoc] at he
        obtain ⟨rfl, hlast⟩ := List.append_inj' he rfl
        obtain rfl : e = e'' := List.singleton_inj.1 hlast
        refine .inr ⟨?_, before, e', after, rfl, hj, hv, fun e₁ h₁ =>
          hafter e₁ (List.mem_append_left _ h₁)⟩
        split
        · rename_i hj'
          exact Entries.last?_eq_none_iff.2
            (hafter e (List.mem_append_right _ (List.mem_singleton.2 rfl)) hj')
        · rfl

namespace Record

variable {es : List (Key × Value)} {j : Nat} {x : Text} {v : Value}

theorem find?_eq_some_iff_mem (h : OfNodes es) (hn : (es.map (·.1)).Nodup) :
    find? (nodeKey j x) es = some v ↔ (nodeKey j x, v) ∈ es := by
  induction es with
  | nil => simp [find?]
  | cons e es ih =>
    obtain ⟨⟨i, y, he⟩, hes⟩ := List.forall_mem_cons.1 h
    obtain ⟨k, w⟩ := e
    obtain rfl : k = nodeKey i y := he
    obtain ⟨hnot, hn⟩ := List.nodup_cons.1 hn
    by_cases hk : i = j ∧ y = x
    · obtain ⟨rfl, rfl⟩ := hk
      have hmem : (nodeKey i y, v) ∉ es := fun hm => hnot (List.mem_map.2 ⟨_, hm, rfl⟩)
      simp [find?, hmem, eq_comm]
    · have hne : ¬ nodeKey j x = nodeKey i y := fun hc =>
        hk ⟨(nodeKey_inj hc).1.symm, (nodeKey_inj hc).2.symm⟩
      simp [find?, nodeKey_same_iff, hk, hne, ih hes hn]

end Record

namespace Interpreter

variable {i : Interpreter} {nodes : List Node} {steps : Nat} {current entry c : Value}
  {s t u : Session} {es : List Evaluation}

theorem approach_ok {v : Node.Invocation}
    (h : (i.approach nodes steps current).run t = (.ok v, u)) :
    ∃ n t₁, (i.checkCeiling steps current).run t.store = (.ok (), t₁) ∧
      find? nodes current = some (v.visit.index, n) ∧
      (Node.prepare i.registry i.access t.record v.visit.index n).run t₁ = (.ok v, u.store) := by
  rw [run_approach] at h
  obtain ⟨hr, hu⟩ := Prod.mk.inj h
  have hstore : ((i.approachOn nodes steps current t.record).run t.store).2 = u.store :=
    congrArg Session.store hu
  obtain ⟨_, t₁, hc, h⟩ := ok_of_bind (Prod.ext hr hstore)
  obtain ⟨⟨index, n⟩, t₂, hn, h⟩ := ok_of_bind h
  rw [run_nodeAt] at hn
  cases hf : find? nodes current with
  | none => rw [hf] at hn; cases hn
  | some p =>
    rw [hf] at hn
    cases hn
    obtain ⟨type, _, _, -, hv, -, -, -⟩ := Node.prepare_ok h
    have hindex : v.visit.index = index := congrArg Node.Visit.index hv
    rw [hindex]
    exact ⟨n, t₁, hc, rfl, h⟩

theorem found_of_turn {e : Evaluation} (h : (i.turn nodes steps current).run t = (.ok e, u)) :
    ∃ n, find? nodes current = some (e.index, n) := by
  obtain ⟨v, _, _, _, hv, -, hindex, -, -⟩ := turn_ok h
  obtain ⟨n, _, -, hf, -⟩ := approach_ok hv
  exact ⟨n, hindex ▸ hf⟩

theorem index_of_turn {e : Evaluation} (h : (i.turn nodes steps current).run t = (.ok e, u)) :
    e.index < nodes.length := by
  obtain ⟨n, hf⟩ := found_of_turn h
  exact (List.getElem?_eq_some_iff.1 (find?_eq_some_iff.1 hf).2).1

structure View (nodes : List Node) (es : List Evaluation) (r : Record) : Prop where
  keys : Record.OfNodes r.entries
  once : (r.entries.map (·.1)).Nodup
  value : ∀ j x, Record.find? (Record.nodeKey j x) r.entries = latest es j x
  index : ∀ e ∈ es, e.index < nodes.length

theorem course_view (hs : s.record = .empty) (h : Course i nodes entry s es c t) :
    View nodes es t.record := by
  induction h with
  | start =>
    rw [hs]
    exact ⟨fun _ he => (nomatch he), List.nodup_nil, fun _ _ => rfl, fun _ he => nomatch he⟩
  | @next es c t u e before goes turn ih =>
    obtain ⟨_, _, w, next, -, -, -, -, rfl⟩ := turn_ok turn
    refine ⟨Node.ofNodes_recorded ih.keys _ _, Node.nodup_recorded ih.keys ih.once _ _,
      fun j x => ?_, fun e' he => ?_⟩
    · rw [Node.find?_recorded ih.keys, ih.value, latest_append]
    · rcases List.mem_append.1 he with he | he
      · exact ih.index e' he
      · rw [List.mem_singleton.1 he]
        exact index_of_turn turn

theorem View.mem_iff {r : Record} (hv : View nodes es r) {j : Nat} {x : Text} {v : Value} :
    (Record.nodeKey j x, v) ∈ r.entries ↔ latest es j x = some v := by
  rw [← hv.value, Record.find?_eq_some_iff_mem hv.keys hv.once]

theorem View.key {r : Record} (hv : View nodes es r) :
    ∀ e ∈ r.entries, ∃ j x, e.1 = Record.nodeKey j x ∧ j < nodes.length := by
  intro e he
  obtain ⟨j, x, hk⟩ := hv.keys e he
  have hm : (Record.nodeKey j x, e.2) ∈ r.entries := hk ▸ he
  obtain ⟨before, e', after, hes, hj, -, -⟩ := latest_eq_some_iff.1 (hv.mem_iff.1 hm)
  refine ⟨j, x, hk, ?_⟩
  rw [← hj]
  exact hv.index e' (by rw [hes]; exact List.mem_append_right _ List.mem_cons_self)

end Interpreter
end NodeWalk
