import NodeWalk.Proofs.History
import NodeWalk.Proofs.MirroredWrites
import NodeWalk.Proofs.ReadNodes

set_option autoImplicit false

/-!
# What a behavior is given

The parameters of a node come in their order. A literal is given as a copy, a
reference as the very value that was put out last. The first reference to what was
never put out stops the evaluation before its behavior is called.
-/
namespace NodeWalk

open Node (Evaluation)

/-- What was put out last where a reference points to; nothing has a negative index. -/
def put (es : List Evaluation) (j : Int) (x : Text) : Option Value :=
  if 0 ≤ j then latest es j.toNat x else none

def missing (es : List Evaluation) (ps : List (Text × Parameter)) :
    Option (Text × Int × Text) :=
  ps.findSome? fun p => match p.2 with
    | .reference (.int j) (.text x) => if (put es j x).isSome then none else some (p.1, j, x)
    | _ => none

/-- What a parameter is given in `g`: its literal as it unfolds in `h`, or the very
value that was put out. -/
inductive Given (es : List Evaluation) (h g : Objects) :
    Text × Parameter → Text × Value → Prop where
  | literal {name : Text} {v w : Value} (has : g.Has w)
      (tree : h.Has v → g.unfold w = h.unfold v) :
    Given es h g (name, .literal v) (name, w)
  | reference {name : Text} {j : Int} {x : Text} {w : Value} (value : put es j x = some w) :
    Given es h g (name, .reference (.int j) (.text x)) (name, w)

theorem Given.kept {es : List Evaluation} {h g g' : Objects} (hk : g.Kept g')
    {p : Text × Parameter} {e : Text × Value} (hg : Given es h g p e) : Given es h g' p e := by
  cases hg with
  | literal has tree =>
    exact .literal (has.kept hk) fun hv => (has.unfold hk).trans (tree hv)
  | reference value => exact .reference value

section

variable {nodes : List Node} {es : List Evaluation} {r : Record} {h : Objects} {t : Store}

theorem Fault.settled_unresolved {j : Int} (hj : Numeral.writable j = true) (x name : Text) :
    (unresolved (.int j) (.text x) (some name)).settled =
      .unresolved (.int j) (.text x) (some name) :=
  settled_of_text (by simp [text?, Scalar.plain?, Scalar.shown?, Numeral.write?, hj])

theorem Record.same_of_negative {j : Int} (hj : j < 0) (i : Nat) (x y : Text) :
    (nodeKey i y).same ⟨.text nodeEntity, .int j, .text x⟩ = false := by
  have hint : (Scalar.int i).same (.int j) = false := by
    simp only [Scalar.same, Scalar.agree, Scalar.number?, Number.compare?, Bool.or_eq_false_iff,
      decide_eq_false_iff_not, Scalar.int.injEq, beq_eq_false_iff_ne, ne_eq, Option.some.injEq,
      Int.compare_eq_eq]
    omega
  simp only [Key.same, nodeKey, hint, Bool.and_false, Bool.false_and]

namespace Interpreter.View

theorem find?_reference (hv : View nodes es r) (j : Int) (x : Text) :
    Record.find? ⟨.text nodeEntity, .int j, .text x⟩ r.entries = put es j x := by
  unfold put
  split
  · rename_i hj
    have hk : (⟨.text nodeEntity, .int j, .text x⟩ : Key) = Record.nodeKey j.toNat x := by
      rw [Record.nodeKey, Int.toNat_of_nonneg hj]
    rw [hk, hv.value]
  · rename_i hj
    have hnone {es : List (Key × Value)} (hes : Record.OfNodes es) :
        Record.find? ⟨.text nodeEntity, .int j, .text x⟩ es = none := by
      induction es with
      | nil => rfl
      | cons e es ih =>
        obtain ⟨⟨i, y, he⟩, htail⟩ := List.forall_mem_cons.1 hes
        obtain ⟨k, w⟩ := e
        obtain rfl : k = Record.nodeKey i y := he
        have hs := Record.same_of_negative (Int.lt_of_not_ge hj) i x y
        simp only [Record.find?, hs, ih htail, Bool.false_eq_true, if_false]
    exact hnone hv.keys

end Interpreter.View

theorem Parameter.run_resolve_literal (r : Record) (name : Text) (v : Value) (t : Store) :
    ((literal v).resolve r name).run t =
      (.ok (t.objects.copy v).1, { t with objects := (t.objects.copy v).2 }) :=
  rfl

theorem Parameter.run_resolve_reference (r : Record) (name : Text) (j : Int) (x : Text)
    (t : Store) : ((reference (.int j) (.text x)).resolve r name).run t =
      match Record.find? ⟨.text nodeEntity, .int j, .text x⟩ r.entries with
        | some v => (.ok v, t)
        | none => (.error (Fault.unresolved (.int j) (.text x) (some name)).settled, t) := by
  unfold resolve
  rw [run_bind_ok (StoreM.run_objects t)]
  have hkey : Key.ofValues t.objects (.text nodeEntity) (.int j) (.text x) =
      .ok ⟨.text nodeEntity, .int j, .text x⟩ := rfl
  rw [hkey, run_bind_ok (StoreM.run_ofExcept_ok _ t)]
  cases Record.find? ⟨.text nodeEntity, .int j, .text x⟩ r.entries <;> rfl

open Parameter in
theorem resolveEach_given (hv : Interpreter.View nodes es r) {ps : List (Text × Parameter)}
    (hps : ∀ p ∈ ps, p.2.Read) (hm : missing es ps = none) (hk : h.Kept t.objects) :
    ∃ vs u, (resolveEach (resolve r) ps).run t = (.ok vs, u) ∧
      List.Forall₂ (Given es h u.objects) ps vs := by
  induction ps generalizing t with
  | nil => exact ⟨[], t, rfl, .nil⟩
  | cons p ps ih =>
    obtain ⟨hp, hothers⟩ := List.forall_mem_cons.1 hps
    obtain ⟨name, q⟩ := p
    unfold missing at hm
    rw [List.findSome?_cons] at hm
    -- The others are given theirs after this one is resolved in `t₁`.
    have rest {w : Value} {t₁ : Store} (hrun : (resolve r name q).run t = (.ok w, t₁))
        (hrest : missing es ps = none) :
        ∃ vs u, (resolveEach (resolve r) ((name, q) :: ps)).run t = (.ok ((name, w) :: vs), u) ∧
          t₁.Keeps u ∧ List.Forall₂ (Given es h u.objects) ps vs := by
      have hkeep := Node.Visit.keeping_resolve r name q t
      rw [hrun] at hkeep
      obtain ⟨vs, u, hvs, hall⟩ := ih hothers hrest (hk.trans hkeep.toKept)
      have hkept := Node.Visit.keeping_resolveEach (Node.Visit.keeping_resolve r) ps t₁
      rw [hvs] at hkept
      refine ⟨vs, u, ?_, hkept, hall⟩
      rw [resolveEach, run_bind_ok hrun, run_bind_ok hvs]
      rfl
    cases hp with
    | literal v =>
      obtain ⟨vs, u, hrun, hkept, hall⟩ := rest (run_resolve_literal r name v t) hm
      have hhas := Objects.has_copy t.objects v
      refine ⟨_, u, hrun, .cons (.literal (hhas.kept hkept.toKept) fun hthere => ?_) hall⟩
      rw [hhas.unfold hkept.toKept, Objects.unfold_copy, hthere.unfold hk]
    | @reference j _ x =>
      dsimp only at hm
      have hres := run_resolve_reference r name j x t
      rw [hv.find?_reference] at hres
      cases hput : put es j x with
      | none => simp [hput] at hm
      | some w =>
        rw [hput] at hres hm
        obtain ⟨vs, u, hrun, -, hall⟩ := rest hres hm
        exact ⟨_, u, hrun, .cons (.reference hput) hall⟩

open Parameter in
theorem resolveEach_missing (hv : Interpreter.View nodes es r) {ps : List (Text × Parameter)}
    (hps : ∀ p ∈ ps, p.2.Read) {name : Text} {j : Int} {x : Text}
    (hm : missing es ps = some (name, j, x)) :
    ∃ u, (resolveEach (resolve r) ps).run t =
      (.error (.unresolved (.int j) (.text x) (some name)), u) := by
  induction ps generalizing t with
  | nil => cases hm
  | cons p ps ih =>
    obtain ⟨hp, hothers⟩ := List.forall_mem_cons.1 hps
    obtain ⟨name', q⟩ := p
    unfold missing at hm
    rw [List.findSome?_cons] at hm
    have later {w : Value} {t₁ : Store} (hrun : (resolve r name' q).run t = (.ok w, t₁))
        (hrest : missing es ps = some (name, j, x)) :
        ∃ u, (resolveEach (resolve r) ((name', q) :: ps)).run t =
          (.error (.unresolved (.int j) (.text x) (some name)), u) := by
      obtain ⟨u, hu⟩ := ih hothers hrest (t := t₁)
      exact ⟨u, by rw [resolveEach, run_bind_ok hrun, run_bind_error hu]⟩
    cases hp with
    | literal v => exact later (run_resolve_literal r name' v t) hm
    | @reference k hshort y =>
      dsimp only at hm
      have hres := run_resolve_reference r name' k y t
      rw [hv.find?_reference] at hres
      cases hput : put es k y with
      | none =>
        rw [hput] at hres
        simp only [hput, Option.isSome_none, Bool.false_eq_true, if_false, Option.some.injEq,
          Prod.mk.injEq] at hm
        obtain ⟨rfl, rfl, rfl⟩ := hm
        rw [Fault.settled_unresolved hshort] at hres
        exact ⟨t, by rw [resolveEach, run_bind_error hres]⟩
      | some w =>
        rw [hput] at hres hm
        exact later hres hm

end

namespace Node

open Visit

variable {nodes : List Node} {es : List Evaluation} {r : Record} {n : Node} {registry : Registry}
  {index : Nat} {type : Text} {b : Registered}

theorem Visit.run_call {entries : Entries Value} (hflow : n.flow = .entries entries)
    (access : Access) (ps : Entries Value) (t : Store) :
    ∃ c u, (Visit.call n access ps).run t = (.ok c, u) ∧
      u.objects.entries? c.parameters = some ps := by
  obtain ⟨_, _, _⟩ := n
  subst hflow
  obtain ⟨c, u, hc⟩ : ∃ c u, (Visit.call ⟨_, _, .entries entries⟩ access ps).run t = (.ok c, u) :=
    ⟨_, _, rfl⟩
  exact ⟨c, u, hc, entries?_of_call hc⟩

def Visit.missingNotice (v : Visit) (f : Fault) : Notice :=
  ⟨.error, .interpreter, v.label ++ (": " ++ f.message), false⟩

theorem run_prepare (htype : n.type = .text type) (hb : Finds registry ⟨index, type⟩ b)
    (access : Access) (t : Store) : (prepare registry access r index n).run t = (do
      let ps ← Visit.parameters ⟨index, type⟩ n r
      let c ← reporting ⟨index, type⟩ (Visit.call n access ps)
      return (⟨⟨index, type⟩, b, c⟩ : Invocation)).run t := by
  have htext : (StoreM.ofExcept (NodeType.ofValue t.objects n.type)).run t = (.ok type, t) := by
    rw [htype]
    rfl
  obtain ⟨b', hb', hbehavior⟩ | ⟨hno, -⟩ := run_behavior registry ⟨index, type⟩ t
  · rw [hb'.unique hb] at hbehavior
    rw [prepare, run_bind_ok (StoreM.run_objects t), run_bind_ok htext, run_bind_ok hbehavior]
  · exact absurd hb (hno b)

theorem run_prepare_unknown (htype : n.type = .text type)
    (hno : ∀ b, ¬ Finds registry ⟨index, type⟩ b) (access : Access) (t : Store) :
    (prepare registry access r index n).run t =
      (.error (Fault.unknownType type (some index)).settled,
        { t with log := t.log.push (unknownNotice ⟨index, type⟩) }) := by
  have htext : (StoreM.ofExcept (NodeType.ofValue t.objects n.type)).run t = (.ok type, t) := by
    rw [htype]
    rfl
  obtain ⟨b, hb, -⟩ | ⟨-, hbehavior⟩ := run_behavior registry ⟨index, type⟩ t
  · exact absurd hb (hno b)
  · rw [prepare, run_bind_ok (StoreM.run_objects t), run_bind_ok htext,
      run_bind_error hbehavior]

/-- Nothing is missing: the behavior is about to be called with what the parameters are
given. -/
theorem prepare_given (hv : Interpreter.View nodes es r) (hn : n.Read)
    (htype : n.type = .text type) (hb : Finds registry ⟨index, type⟩ b)
    (hm : missing es n.parameters = none) (access : Access) (t : Store) :
    ∃ v u ps, (prepare registry access r index n).run t = (.ok v, u) ∧
      v.visit = ⟨index, type⟩ ∧ v.behavior = b ∧
      u.objects.entries? v.call.parameters = some ps ∧
      List.Forall₂ (Given es t.objects u.objects) n.parameters ps := by
  obtain ⟨entries, hflow⟩ := hn.flow
  obtain ⟨ps, t₁, hps, hall⟩ := resolveEach_given hv hn.parameters hm (.refl t.objects)
  obtain ⟨c, u, hc, hentries⟩ := run_call hflow access ps t₁
  have hkept := keeping_call n access ps t₁
  rw [hc] at hkept
  have hparameters : (Visit.parameters ⟨index, type⟩ n r).run t = (.ok ps, t₁) := by
    rw [Visit.parameters, run_tryCatch, hps]
  have hcall : (reporting ⟨index, type⟩ (Visit.call n access ps)).run t₁ = (.ok c, u) := by
    rw [reporting, run_tryCatch, hc]
  refine ⟨⟨⟨index, type⟩, b, c⟩, u, ps, ?_, rfl, rfl, hentries,
    hall.imp fun _ _ hg => hg.kept hkept.toKept⟩
  rw [run_prepare htype hb, run_bind_ok hparameters, run_bind_ok hcall]
  rfl

theorem prepare_missing (hv : Interpreter.View nodes es r) (hn : n.Read)
    (htype : n.type = .text type) (hb : Finds registry ⟨index, type⟩ b) {name : Text} {j : Int}
    {x : Text} (hm : missing es n.parameters = some (name, j, x)) (access : Access) (t : Store) :
    ∃ u, (prepare registry access r index n).run t =
      (.error (.unresolved (.int j) (.text x) (some name)), u) := by
  obtain ⟨t₁, hps⟩ := resolveEach_missing (t := t) hv hn.parameters hm
  let f : Fault := .unresolved (.int j) (.text x) (some name)
  have hparameters : (Visit.parameters ⟨index, type⟩ n r).run t =
      (.error f, { t₁ with log := t₁.log.push (Visit.missingNotice ⟨index, type⟩ f) }) := by
    rw [Visit.parameters, run_tryCatch, hps]
    rfl
  exact ⟨_, by rw [run_prepare htype hb, run_bind_error hparameters]⟩

end Node
end NodeWalk
