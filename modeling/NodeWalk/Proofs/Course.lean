import NodeWalk.Run.Interpreter

set_option autoImplicit false

/-!
# The course of a run

A course lists the evaluations that a walk has completed, in their order, with
the value that is next and the session that the last of them left. A walk of at
most so many turns ends where its course ends: it halts at null, fails in the
turn after the course, or is out of turns. `walk_eq_iff` says that these are the
only ways and that they exclude each other.
-/
namespace NodeWalk

def Ending.halts? : Ending → Option Nat
  | .halted k => some k
  | _ => none

theorem Ending.eq_halted {e : Ending} {k : Nat} (h : e.halts? = some k) : e = .halted k := by
  cases e with
  | halted j => exact congrArg Ending.halted (Option.some.inj h)
  | failed _ _ => cases h
  | unfinished _ _ => cases h

namespace Interpreter

open Node (Evaluation)

variable {i : Interpreter} {nodes : List Node} {entry : Value} {s : Session}

inductive Course (i : Interpreter) (nodes : List Node) (entry : Value) (s : Session) :
    List Evaluation → Value → Session → Prop where
  | start : Course i nodes entry s [] entry s
  | next {es : List Evaluation} {c : Value} {t u : Session} {e : Evaluation}
      (before : Course i nodes entry s es c t) (goes : c ≠ .null)
      (turn : (i.turn nodes es.length c).run t = (.ok e, u)) :
      Course i nodes entry s (es ++ [e]) e.output.next u

theorem Course.unique {es es' : List Evaluation} {c c' : Value} {t t' : Session}
    (h : Course i nodes entry s es c t) (h' : Course i nodes entry s es' c' t')
    (hl : es.length = es'.length) : es = es' ∧ c = c' ∧ t = t' := by
  induction h generalizing es' c' t' with
  | start =>
    cases h' with
    | start => exact ⟨rfl, rfl, rfl⟩
    | next _ _ _ => simp at hl
  | next before _ turn ih =>
    cases h' with
    | start => simp at hl
    | next before' _ turn' =>
      obtain ⟨rfl, rfl, rfl⟩ := ih before' (by simpa using hl)
      rw [turn] at turn'
      cases turn'
      exact ⟨rfl, rfl, rfl⟩

theorem Course.length_le_of_null {es es' : List Evaluation} {c' : Value} {t t' : Session}
    (h : Course i nodes entry s es .null t) (h' : Course i nodes entry s es' c' t') :
    es'.length ≤ es.length := by
  induction h' with
  | start => simp
  | next before goes _ ih =>
    rcases Nat.lt_or_eq_of_le ih with hlt | heq
    · simp only [List.length_append, List.length_singleton]
      omega
    · exact absurd (before.unique h heq).2.1 goes

theorem Course.length_le_of_fault {es es' : List Evaluation} {c c' : Value} {t t' u : Session}
    {f : Fault} (h : Course i nodes entry s es c t)
    (hf : (i.turn nodes es.length c).run t = (.error f, u))
    (h' : Course i nodes entry s es' c' t') : es'.length ≤ es.length := by
  induction h' with
  | start => simp
  | next before _ turn ih =>
    rcases Nat.lt_or_eq_of_le ih with hlt | heq
    · simp only [List.length_append, List.length_singleton]
      omega
    · obtain ⟨rfl, rfl, rfl⟩ := before.unique h heq
      rw [hf] at turn
      cases turn

/-- How a walk of at most `turns` turns ends. -/
inductive Stops (i : Interpreter) (nodes : List Node) (entry : Value) (s : Session)
    (turns : Nat) : Ending → Session → Prop where
  | halted {es : List Evaluation} {t : Session} (course : Course i nodes entry s es .null t)
      (within : es.length ≤ turns) : Stops i nodes entry s turns (.halted es.length) t
  | failed {es : List Evaluation} {c : Value} {t u : Session} {f : Fault}
      (course : Course i nodes entry s es c t) (goes : c ≠ .null) (within : es.length < turns)
      (turn : (i.turn nodes es.length c).run t = (.error f, u)) :
      Stops i nodes entry s turns (.failed es.length f) u
  | unfinished {es : List Evaluation} {c : Value} {t : Session}
      (course : Course i nodes entry s es c t) (goes : c ≠ .null) (all : es.length = turns) :
      Stops i nodes entry s turns (.unfinished es.length c) t

theorem walk_zero {steps : Nat} {c : Value} (hc : c ≠ .null) :
    i.walk nodes 0 steps c s = (.unfinished steps c, s) := by
  rw [walk]
  exact hc

theorem walk_succ {turns steps : Nat} {c : Value} (hc : c ≠ .null) :
    i.walk nodes (turns + 1) steps c s = match (i.turn nodes steps c).run s with
      | (.ok e, t) => i.walk nodes turns (steps + 1) e.output.next t
      | (.error f, t) => (.failed steps f, t) := by
  exact walk.eq_3 i nodes steps c s turns hc

theorem stops_walk {es : List Evaluation} {c : Value} {t : Session}
    (h : Course i nodes entry s es c t) (turns : Nat) :
    Stops i nodes entry s (es.length + turns) (i.walk nodes turns es.length c t).1
      (i.walk nodes turns es.length c t).2 := by
  induction turns generalizing es c t with
  | zero =>
    by_cases hc : c = .null
    · subst hc
      simpa [walk] using Stops.halted h (Nat.le_refl _)
    · simpa [walk_zero hc] using Stops.unfinished h hc rfl
  | succ turns ih =>
    by_cases hc : c = .null
    · subst hc
      simpa [walk] using Stops.halted h (Nat.le_add_right _ _)
    · rw [walk_succ hc]
      cases ht : (i.turn nodes es.length c).run t with
      | mk result u =>
        cases result with
        | error f => exact .failed h hc (by omega) ht
        | ok e =>
          have hn := ih (h.next hc ht)
          simp only [List.length_append, List.length_singleton] at hn
          rw [show es.length + (turns + 1) = es.length + 1 + turns by omega]
          exact hn

theorem Stops.unique {turns : Nat} {e e' : Ending} {t t' : Session}
    (h : Stops i nodes entry s turns e t) (h' : Stops i nodes entry s turns e' t') :
    e = e' ∧ t = t' := by
  have same {es es' : List Evaluation} {c c' : Value} {t t' : Session}
      (h : Course i nodes entry s es c t) (h' : Course i nodes entry s es' c' t')
      (hle : es.length ≤ es'.length) (hge : es'.length ≤ es.length) :=
    h.unique h' (Nat.le_antisymm hle hge)
  cases h with
  | halted h w =>
    cases h' with
    | halted h' w' =>
      obtain ⟨rfl, -, rfl⟩ := same h h' (h'.length_le_of_null h) (h.length_le_of_null h')
      exact ⟨rfl, rfl⟩
    | failed h' goes _ hf =>
      exact absurd (same h h' (h'.length_le_of_fault hf h) (h.length_le_of_null h')).2.1.symm goes
    | unfinished h' goes all =>
      exact absurd (same h h' (by omega) (h.length_le_of_null h')).2.1.symm goes
  | failed h goes w hf =>
    cases h' with
    | halted h' _ =>
      exact absurd (same h h' (h'.length_le_of_null h) (h.length_le_of_fault hf h')).2.1 goes
    | failed h' _ _ hf' =>
      obtain ⟨rfl, rfl, rfl⟩ := same h h' (h'.length_le_of_fault hf' h) (h.length_le_of_fault hf h')
      rw [hf] at hf'
      cases hf'
      exact ⟨rfl, rfl⟩
    | unfinished h' _ all =>
      have := h.length_le_of_fault hf h'
      omega
  | unfinished h goes all =>
    cases h' with
    | halted h' _ =>
      exact absurd (same h h' (h'.length_le_of_null h) (by omega)).2.1 goes
    | failed h' _ w hf =>
      have := h'.length_le_of_fault hf h
      omega
    | unfinished h' _ all' =>
      obtain ⟨rfl, rfl, rfl⟩ := same h h' (by omega) (by omega)
      exact ⟨rfl, rfl⟩

theorem walk_eq_iff {turns : Nat} {e : Ending} {t : Session} :
    i.walk nodes turns 0 entry s = (e, t) ↔ Stops i nodes entry s turns e t := by
  have hstart : Course i nodes entry s [] entry s := .start
  have hw := stops_walk hstart turns
  simp only [List.length_nil, Nat.zero_add] at hw
  constructor
  · intro h
    rw [h] at hw
    exact hw
  · intro h
    obtain ⟨he, ht⟩ := hw.unique h
    exact Prod.ext he ht

def FitsIn (turns : Nat) : Ending → Prop
  | .halted k => k ≤ turns
  | .failed k _ => k < turns
  | .unfinished k _ => k = turns

theorem Stops.fitsIn {turns : Nat} {e : Ending} {t : Session}
    (h : Stops i nodes entry s turns e t) : FitsIn turns e := by
  cases h with
  | halted _ within => exact within
  | failed _ _ within _ => exact within
  | unfinished _ _ all => exact all

theorem FitsIn.later {turns turns' : Nat} {e : Ending} (h : FitsIn turns e)
    (he : ∀ c, e ≠ .unfinished turns c) (hl : turns < turns') : FitsIn turns' e := by
  cases e with
  | halted k => exact Nat.le_of_lt (Nat.lt_of_le_of_lt h hl)
  | failed k f => exact Nat.lt_trans h hl
  | unfinished k c => exact absurd (congrArg (Ending.unfinished · c) h) (he c)

/-- An ending that is no lack of turns stays the same with any number of turns that
leaves room for it. -/
theorem Stops.of_fitsIn {turns turns' : Nat} {e : Ending} {t : Session}
    (h : Stops i nodes entry s turns e t) (he : FitsIn turns' e) :
    Stops i nodes entry s turns' e t := by
  cases h with
  | halted course _ => exact .halted course he
  | failed course goes _ turn => exact .failed course goes he turn
  | unfinished course goes _ => exact .unfinished course goes he

variable {submitted : Submission} {t u : Session} {turns : Nat} {e : Ending}

theorem run_of_start_error {f : Fault} (h : (start entry submitted).run s = (.error f, t))
    (turns : Nat) : i.run turns entry submitted s = (.failed 0 f, t) := by
  rw [run, h]

theorem run_of_stops (h : (start entry submitted).run s = (.ok nodes, t))
    (hs : Stops i nodes entry t turns e u) :
    i.run turns entry submitted s = conclude (e, u) := by
  rw [run, h]
  exact congrArg conclude (walk_eq_iff.2 hs)

theorem stops_of_run (h : (start entry submitted).run s = (.ok nodes, t))
    (hr : i.run turns entry submitted s = (e, u)) :
    ∃ w, Stops i nodes entry t turns e w ∧ conclude (e, w) = (e, u) := by
  rw [run, h] at hr
  dsimp only at hr
  cases hw : i.walk nodes turns 0 entry t with
  | mk e' w =>
    rw [hw] at hr
    have he : e' = e := by cases e' <;> exact congrArg Prod.fst hr
    subst he
    exact ⟨w, walk_eq_iff.1 hw, hr⟩

theorem run_fitsIn (hn : 1 ≤ turns) (h : i.run turns entry submitted s = (e, u)) :
    FitsIn turns e := by
  cases hs : (start entry submitted).run s with
  | mk started t =>
    cases started with
    | error f =>
      rw [run_of_start_error hs] at h
      cases h
      exact hn
    | ok nodes =>
      obtain ⟨w, hw, -⟩ := stops_of_run hs h
      exact hw.fitsIn

theorem run_of_fitsIn {turns' : Nat} (h : i.run turns entry submitted s = (e, u))
    (he : FitsIn turns' e) : i.run turns' entry submitted s = (e, u) := by
  cases hs : (start entry submitted).run s with
  | mk started t =>
    cases started with
    | error f =>
      rw [run_of_start_error hs] at h ⊢
      exact h
    | ok nodes =>
      obtain ⟨w, hw, hc⟩ := stops_of_run hs h
      rw [run_of_stops hs (hw.of_fitsIn he), hc]

variable {j : Interpreter} {bound : Nat} {es : List Evaluation} {c : Value}

/-- The two take the same turns as long as fewer than `bound` were taken. -/
def TurnsAlike (i j : Interpreter) (nodes : List Node) (bound : Nat) : Prop :=
  ∀ steps, steps < bound → ∀ c t, (i.turn nodes steps c).run t = (j.turn nodes steps c).run t

namespace TurnsAlike

theorem course (h : TurnsAlike i j nodes bound) (hcourse : Course i nodes entry s es c t)
    (hl : es.length ≤ bound) : Course j nodes entry s es c t := by
  induction hcourse with
  | start => exact .start
  | @next es c t u e before goes turn ih =>
    simp only [List.length_append, List.length_singleton] at hl
    refine .next (ih (by omega)) goes ?_
    rw [← h es.length (by omega) c t]
    exact turn

theorem stops (h : TurnsAlike i j nodes bound) (hs : Stops i nodes entry s turns e t)
    (hl : turns ≤ bound) : Stops j nodes entry s turns e t := by
  cases hs with
  | halted course within => exact .halted (h.course course (Nat.le_trans within hl)) within
  | @failed es c t u f course goes within turn =>
    have hlt : es.length < bound := Nat.lt_of_lt_of_le within hl
    refine .failed (h.course course (Nat.le_of_lt hlt)) goes within ?_
    rw [← h es.length hlt c t]
    exact turn
  | unfinished course goes all => exact .unfinished (h.course course (all ▸ hl)) goes all

end TurnsAlike

end Interpreter
end NodeWalk
