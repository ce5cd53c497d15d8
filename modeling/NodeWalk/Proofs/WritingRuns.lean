import NodeWalk.Proofs.LiveScope
import NodeWalk.Proofs.LocalBuiltIn
import NodeWalk.Proofs.OneEntry
import NodeWalk.Proofs.Reading

set_option autoImplicit false

/-!
# What runs write

An evaluation of a built-in node writes to at most one container that was there before,
and to one entry of it: that is what `world.set` does, and all others write to none. So a
run of a graph without such nodes keeps the document and all that was ever recorded.
-/
namespace NodeWalk

open Node (Evaluation)

theorem NodeType.type_of_split {type : Text} {p : Text × Text} (h : split type = .ok p) :
    p.1 ++ "." ++ p.2 = type := by
  unfold split parts at h
  dsimp only at h
  split at h
  · cases h
  · rename_i hne
    cases h
    rw [not_or] at hne
    have hall := List.takeWhile_append_dropWhile (p := (· != .char '.')) (l := type.points)
    cases hd : type.points.dropWhile (· != .char '.') with
    | nil => exact absurd (by rw [hd]; rfl) hne.2
    | cons c cs =>
      have hc : c = .char '.' := by
        have hhead := List.head_dropWhile_not (l := type.points) (· != .char '.') (by simp [hd])
        simpa [hd] using hhead
      subst hc
      rw [hd] at hall
      apply Text.ext
      simpa [hd] using hall

namespace Node

theorem Visit.Finds.eq_worldSet_or_keeping {v : Visit} {b : Registered}
    (h : v.Finds Registry.builtIn b) :
    (v.type = "world.set" ∧ b = BuiltIn.worldSet) ∨
      v.type ≠ "world.set" ∧ ∀ c, StoreM.Keeping (b.behave c) := by
  obtain ⟨p, hp, hb⟩ := h
  rw [NodeType.type_of_split hp] at hb
  exact BuiltIn.eq_worldSet_or_keeping hb

namespace Invocation

variable {v : Invocation} {s t : Store} {output : Output}

theorem answer_ok (h : v.answer.run s = (.ok output, t)) :
    ∃ reply, (v.behavior.behave v.call).run s = (.ok reply, t) ∧
      reply.accept t.objects = some output := by
  rw [run_answer] at h
  cases hr : (v.behavior.behave v.call).run s with
  | mk result u =>
    rw [hr] at h
    cases result with
    | error f => cases h
    | ok reply =>
      dsimp only at h
      cases ha : reply.accept u.objects with
      | none => rw [ha] at h; cases h
      | some o =>
        rw [ha] at h
        cases h
        exact ⟨reply, rfl, ha⟩

theorem keeping_answer (hb : StoreM.Keeping (v.behavior.behave v.call)) :
    StoreM.Keeping v.answer := by
  refine (Visit.keeping_reporting v.visit hb).bind fun reply => ?_
  refine StoreM.keeping_objects.bind fun h => ?_
  split
  · exact StoreM.keeping_pure _
  · exact (StoreM.keeping_report _).bind fun _ => StoreM.keeping_fail _

theorem keeps_conduct (hb : StoreM.Keeping (v.behavior.behave v.call)) (s : Session) :
    s.store.Keeps (v.conduct.run s).2.store := by
  have hk := keeping_answer hb s.store
  rw [run_conduct]
  cases ha : v.answer.run s.store with
  | mk result t =>
    rw [ha] at hk
    cases result with
    | error f => exact hk
    | ok output =>
      dsimp only
      cases t.objects.plain? output.next with
      | none => exact hk
      | some next => exact hk.trans ⟨.refl _, rfl⟩

end Invocation
end Node

namespace Session

structure Preserves (t u : Session) : Prop where
  store : t.store.Keeps u.store
  document : u.store.objects.unfold u.store.root = t.store.objects.unfold t.store.root
  record : ∀ e ∈ t.record.entries, u.store.objects.unfold e.2 = t.store.objects.unfold e.2

variable {s : Scope} {t u : Session}

theorem Live.has (hl : t.Live s) {v : Value} (hv : Within s v) : t.store.objects.Has v :=
  fun a ha => hl.holds.size a (hl.holds.reach_subset hv a ha)

theorem Live.has_root (hl : t.Live s) : t.store.objects.Has t.store.root := hl.has hl.root

theorem Live.preserves (hl : t.Live s) (hk : t.store.Keeps u.store) : t.Preserves u where
  store := hk
  document := by rw [hk.root, hl.has_root.unfold hk.toKept]
  record e he := (hl.has (hl.record e he)).unfold hk.toKept

end Session

namespace Interpreter

variable {i : Interpreter} {nodes : List Node} {steps : Nat} {current entry c : Value}
  {s t u : Session} {es es' : List Evaluation}

theorem visits_of_approach {v : Node.Invocation}
    (h : (i.approach nodes steps current).run t = (.ok v, u)) :
    ∃ n, find? nodes current = some (v.visit.index, n) ∧ n.type = .text v.visit.type ∧
      v.visit.Finds i.registry v.behavior := by
  obtain ⟨n, t₁, -, hf, hp⟩ := approach_ok h
  obtain ⟨type, _, _, htype, hvisit, hfinds, -, -⟩ := Node.prepare_ok hp
  refine ⟨n, hf, ?_, hfinds⟩
  have hv : v.visit.type = type := congrArg Node.Visit.type hvisit
  rw [hv]
  unfold NodeType.ofValue at htype
  split at htype
  · rename_i hn
    cases htype
    exact hn
  · cases htype

theorem turn_keeps (hi : i.registry = .builtIn) {r : Except Fault Evaluation}
    (hno : ∀ p, find? nodes current = some p → p.2.type ≠ .text "world.set")
    (h : (i.turn nodes steps current).run t = (r, u)) : t.store.Keeps u.store := by
  rw [run_turn] at h
  cases hv : (i.approach nodes steps current).run t with
  | mk approached x =>
    have hk := (approach_keeps hv).2
    rw [hv] at h
    cases approached with
    | error f =>
      cases h
      exact hk
    | ok v =>
      obtain ⟨n, hf, htype, hfinds⟩ := visits_of_approach hv
      rw [hi] at hfinds
      obtain ⟨hset, -⟩ | ⟨-, hb⟩ := hfinds.eq_worldSet_or_keeping
      · rw [hset] at htype
        exact absurd htype (hno _ hf)
      · have hconduct := Node.Invocation.keeps_conduct (hb v.call) x
        dsimp only at h
        rw [h] at hconduct
        exact hk.trans hconduct

theorem not_worldSet_of_find? (hno : ∀ n ∈ nodes, n.type ≠ .text "world.set") :
    ∀ p, find? nodes current = some p → p.2.type ≠ .text "world.set" := by
  intro p hp
  obtain ⟨-, hn⟩ := find?_eq_some_iff.1 hp
  exact hno p.2 (List.mem_of_getElem? hn)

theorem turn_sets (hi : i.registry = .builtIn) (hhas : t.store.objects.Has t.store.root)
    {e : Evaluation} (h : (i.turn nodes steps current).run t = (.ok e, u)) :
    ∃ n v x, find? nodes current = some (e.index, n) ∧
      (i.approach nodes steps current).run t = (.ok v, x) ∧
      (n.type = .text "world.set" → v.call.Sets x.store t.store u.store) := by
  obtain ⟨v, x, w, next, hv, ha, hindex, -, rfl⟩ := turn_ok h
  obtain ⟨n, hf, htype, hfinds⟩ := visits_of_approach hv
  refine ⟨n, v, x, hindex ▸ hf, hv, fun hset => ?_⟩
  rw [hi] at hfinds
  have hk := (approach_keeps hv).2
  obtain ⟨-, hb⟩ | ⟨hne, -⟩ := hfinds.eq_worldSet_or_keeping
  · obtain ⟨reply, hr, -⟩ := Node.Invocation.answer_ok ha
    rw [hb] at hr
    have hx : x.store.objects.Has x.store.root := by
      rw [hk.root]
      exact hhas.kept hk.toKept
    exact hk.sets hhas (BuiltIn.worldSet_ok hx hr) ⟨.refl _, rfl⟩
  · rw [htype] at hset
    exact absurd (Scalar.text.inj (Value.scalar.inj hset)) hne

theorem course_keeps (hi : i.registry = .builtIn)
    (hno : ∀ n ∈ nodes, n.type ≠ .text "world.set") (h : Course i nodes entry s es c t)
    {c' : Value} {t' : Session} (h' : Course i nodes entry s es' c' t')
    (hle : es.length ≤ es'.length) : t.store.Keeps t'.store := by
  induction h' with
  | start =>
    obtain ⟨-, -, rfl⟩ := h.unique .start (Nat.le_antisymm hle (Nat.zero_le _))
    exact .refl _
  | next before goes turn ih =>
    rcases Nat.lt_or_eq_of_le hle with hlt | heq
    · rw [List.length_append, List.length_singleton] at hlt
      exact (ih (Nat.le_of_lt_succ hlt)).trans (turn_keeps hi (not_worldSet_of_find? hno) turn)
    · obtain ⟨-, -, rfl⟩ := h.unique (before.next goes turn) heq
      exact .refl _

variable {live graph : Scope} {submitted : Submission} {s₁ : Session}

theorem run_keeps (hi : i.registry = .builtIn) (hno : ∀ n ∈ nodes, n.type ≠ .text "world.set")
    (hstart : (start entry submitted).run s = (.ok nodes, s₁))
    (h : Course i nodes entry s₁ es c t) {turns : Nat} {ending : Ending}
    (hr : i.run turns entry submitted s = (ending, u)) (hle : es.length ≤ turns) :
    t.store.Keeps u.store := by
  obtain ⟨w, hstops, hconclude⟩ := stops_of_run hstart hr
  have hw : t.store.Keeps w.store := by
    cases hstops with
    | halted course _ => exact course_keeps hi hno h course (course.length_le_of_null h)
    | unfinished course _ all => exact course_keeps hi hno h course (all ▸ hle)
    | failed course _ _ turn =>
      exact (course_keeps hi hno h course (course.length_le_of_fault turn h)).trans
        (turn_keeps hi (not_worldSet_of_find? hno) turn)
  have hu : w.store.Keeps u.store := by
    cases ending <;> cases hconclude <;> exact ⟨.refl _, rfl⟩
  exact hw.trans hu

theorem live_of_course (hi : i.registry = .builtIn) (hlive : s.Live live)
    (hgraph : s.store.objects.Holds graph) (hsubmitted : Within graph submitted)
    (hstart : (start entry submitted).run s = (.ok nodes, s₁))
    (h : Course i nodes entry s₁ es c t) : ∃ s', t.Live s' := by
  have hlocal : i.registry.Local := hi ▸ Registry.local_builtIn
  obtain ⟨s', hl, -, hb, hc⟩ := start_live hlive hgraph hsubmitted hstart
  obtain ⟨s'', hl', -, -⟩ := course_live hlocal hl hb hc h
  exact ⟨s'', hl'⟩

/-- A completed evaluation of a built-in node keeps the stores, but at a `world.set` it does
what the call asks for. Where no node is a `world.set`, all later points of a run and its end
keep the document and all that is recorded at an earlier one. -/
theorem run_writes_one_entry (hi : i.registry = .builtIn) (hlive : s.Live live)
    (hgraph : s.store.objects.Holds graph) (hsubmitted : Within graph submitted)
    (hstart : (start entry submitted).run s = (.ok nodes, s₁))
    (hcourse : Course i nodes entry s₁ es c t) :
    (∀ e u, (i.turn nodes es.length c).run t = (.ok e, u) →
      ∃ n v x, find? nodes c = some (e.index, n) ∧
        (i.approach nodes es.length c).run t = (.ok v, x) ∧
        (n.type ≠ .text "world.set" → t.store.Keeps u.store) ∧
        (n.type = .text "world.set" → v.call.Sets x.store t.store u.store)) ∧
    ((∀ n ∈ nodes, n.type ≠ .text "world.set") →
      ∀ turns ending u, es.length ≤ turns → i.run turns entry submitted s = (ending, u) →
        t.Preserves u) := by
  obtain ⟨s', hl⟩ := live_of_course hi hlive hgraph hsubmitted hstart hcourse
  refine ⟨fun e u hturn => ?_, fun hno turns ending u hle hr => ?_⟩
  · obtain ⟨n, v, x, hf, hv, hsets⟩ := turn_sets hi hl.has_root hturn
    refine ⟨n, v, x, hf, hv, fun hne => turn_keeps hi (fun p hp => ?_) hturn, hsets⟩
    cases hf.symm.trans hp
    exact hne
  · exact hl.preserves (run_keeps hi hno hstart hcourse hr hle)

def posting : Session where
  store :=
    { objects := ⟨#[.object [("path", .text "/a/b"), ("value", .bool true)],
        .object [("type", .text "world.set"), ("parameters", .ref 0)], .array [.ref 1],
        .object []], 1⟩
      root := .ref 3
      log := #[] }
  record := .empty

def postingNodes : List Node :=
  [⟨.text "world.set", [("path", .literal (.text "/a/b")), ("value", .literal (.bool true))],
    .entries []⟩]

theorem run_writes_one_entry_posting :
    ∃ s₁ e u, (start (.int 0) (.value (.ref 2))).run posting = (.ok postingNodes, s₁) ∧
      (builtIn.turn postingNodes 0 (.int 0)).run s₁ = (.ok e, u) ∧
      s₁.store.WritesOneEntry u.store ∧ u.store.objects.cell 3 = .object [("a", .ref 7)] := by
  have hholds : posting.store.objects.Holds ⟨{a | a < 4}, {0}⟩ := by
    refine ⟨fun a ha => ha, fun a ha => ?_, ?_, rfl⟩
    · have ha : a = 0 ∨ a = 1 ∨ a = 2 ∨ a = 3 := by
        have : a < 4 := ha
        omega
      rcases ha with rfl | rfl | rfl | rfl <;>
        simp [posting, Objects.cell, within_of_not_float]
    · rintro m rfl
      exact Nat.one_pos
  have hlive : posting.Live ⟨{a | a < 4}, {0}⟩ :=
    ⟨hholds, show (3 : Nat) < 4 by decide, fun _ he => absurd he List.not_mem_nil, within_nil _⟩
  have hgraph : Within ⟨{a | a < 4}, {0}⟩ (Submission.value (.ref 2)) :=
    show (2 : Nat) < 4 by decide
  have hstart : (start (.int 0) (.value (.ref 2))).run posting = (.ok postingNodes, _) :=
    run_eq_of_result (ok_of_toOption (by decide +kernel))
  generalize hs₁ : ((start (.int 0) (.value (.ref 2))).run posting).2 = s₁ at hstart
  obtain ⟨e, he⟩ : ∃ e, ((builtIn.turn postingNodes 0 (.int 0)).run s₁).1 = .ok e := by
    have hsome : ((builtIn.turn postingNodes 0 (.int 0)).run s₁).1.toOption.isSome = true := by
      rw [← hs₁]
      decide +kernel
    obtain ⟨e, he⟩ := Option.isSome_iff_exists.1 hsome
    exact ⟨e, ok_of_toOption he⟩
  have hturn := run_eq_of_result he
  have hcell : ((builtIn.turn postingNodes 0 (.int 0)).run s₁).2.store.objects.cell 3 =
      .object [("a", .ref 7)] := by
    rw [← hs₁]
    decide +kernel
  have hold : s₁.store.objects.cell 3 = .object [] := by
    rw [← hs₁]
    decide +kernel
  have hlt : 3 < s₁.store.objects.cells.size := Objects.lt_size_of_object hold
  obtain ⟨n, v, x, hn, -, -, hset⟩ :=
    (run_writes_one_entry rfl hlive hholds hgraph hstart .start).1 e _ hturn
  have hfind : find? postingNodes (.int 0) = some (0, postingNodes[0]) := rfl
  obtain rfl := (Prod.mk.inj (Option.some.inj (hfind.symm.trans hn))).2
  obtain ⟨ps, path, -, -, ⟨-, hkept, -⟩ | ⟨-, hwrites⟩⟩ := hset rfl
  · have hsame := hkept.cell 3 hlt
    rw [hcell, hold] at hsame
    cases hsame
  · exact ⟨s₁, e, _, hstart, hturn, hwrites, hcell⟩

end Interpreter
end NodeWalk
