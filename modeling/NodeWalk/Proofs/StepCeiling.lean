import NodeWalk.Proofs.Course
import NodeWalk.Proofs.Turn
import NodeWalk.Run.BuiltIn

set_option autoImplicit false

/-!
# The ceiling only truncates

A run with the ceiling `n` is the run without a ceiling as long as fewer than `n`
evaluations are completed. If the free run ends by then, so does the bounded one
and in the same way. Otherwise the bounded run fails at its ceiling, in the state
that the free run has after `n` evaluations.
-/
namespace NodeWalk

structure Session.SameState (s t : Session) : Prop where
  record : t.record = s.record
  objects : t.store.objects = s.store.objects
  root : t.store.root = s.store.root

namespace Interpreter

/-- The interpreter with a ceiling of `n`; zero stands for none. -/
def limited (i : Interpreter) (n : Nat) : Interpreter :=
  { i with ceiling := if n = 0 then none else some (.int n) }

theorem ofValue_nat (h : Objects) (configured : Int) (i : Interpreter) (n : Nat) :
    Ceiling.ofValue h configured (.int n) = .ok (i.limited n).ceiling := by
  have hc : compare (n : Int) 0 ≠ .lt := by
    rw [Ne, Int.compare_eq_lt]
    omega
  by_cases hn : n = 0
  · subst hn
    rfl
  · simp [Ceiling.ofValue, Ceiling.ofScalar, Scalar.number?, Number.compare?, Scalar.isTrue,
      limited, hc, hn]

theorem reached_iff (n steps : Nat) : Ceiling.reached (.int n) steps = true ↔ n ≤ steps := by
  simp only [Ceiling.reached, Scalar.number?, Option.bind_some, Number.compare?]
  cases h : compare (steps : Int) n with
  | lt =>
    rw [Int.compare_eq_lt] at h
    simp only [Bool.false_eq_true, false_iff]
    omega
  | eq =>
    rw [Int.compare_eq_eq] at h
    simp only [true_iff]
    omega
  | gt =>
    rw [Int.compare_eq_gt] at h
    simp only [true_iff]
    omega

variable {i : Interpreter} {nodes : List Node} {entry : Value} {s : Session} {n : Nat}

theorem turn_limited_of_lt {steps : Nat} (h : steps < n) (c : Value) :
    (i.limited n).turn nodes steps c = (i.limited 0).turn nodes steps c := by
  have hn : n ≠ 0 := by omega
  have hr : Ceiling.reached (.int n) steps = false := by
    rw [Bool.eq_false_iff, Ne, reached_iff]
    omega
  simp [turn, approach, checkCeiling, limited, hn, hr]

theorem turnsAlike_limited : TurnsAlike (i.limited 0) (i.limited n) nodes n :=
  fun _ h c _ => by rw [turn_limited_of_lt h c]

/-- The successor that a completed evaluation named was written into the log, so it
can be written again. -/
theorem Course.plain_next {es : List Node.Evaluation} {c : Value} {t : Session}
    (h : Course i nodes entry s es c t) (hes : es ≠ []) :
    ∃ text, t.store.objects.plain? c = some text := by
  cases h with
  | start => exact absurd rfl hes
  | next _ _ turn =>
    obtain ⟨v, u, w, next, -, -, -, hn, rfl⟩ := turn_ok turn
    exact ⟨next, hn⟩

theorem turn_limited_self (i : Interpreter) (nodes : List Node) (hn : 1 ≤ n) {c : Value}
    {t : Session} {text : Text}
    (hc : t.store.objects.plain? c = some text) :
    ∃ u, ((i.limited n).turn nodes n c).run t = (.error (Fault.stepLimit (.int n)).settled, u) ∧
      t.SameState u := by
  have hn0 : n ≠ 0 := by omega
  have hr : Ceiling.reached (.int n) n = true := (reached_iff n n).2 (Nat.le_refl n)
  rw [run_turn, approach, run_bind, SessionM.run_onStore]
  simp only [checkCeiling, limited, hn0, ↓reduceIte, hr]
  rw [run_bind, StoreM.run_plain, Objects.plain?_scalar]
  cases hp : (Scalar.int n).plain? with
  | none => exact ⟨t, by simp [Fault.settled, Fault.text?, hp], rfl, rfl, rfl⟩
  | some limit =>
    dsimp only
    rw [run_bind, StoreM.run_plain, hc]
    exact ⟨_, rfl, rfl, rfl, rfl⟩

theorem stops_limited {e : Ending} {t : Session} (h : Stops (i.limited 0) nodes entry s n e t)
    (he : ∀ c, e ≠ .unfinished n c) {m : Nat} (hm : n < m) :
    Stops (i.limited n) nodes entry s m e t :=
  (turnsAlike_limited.stops h (Nat.le_refl n)).of_fitsIn (h.fitsIn.later he hm)

theorem stops_limited_self (hn : 1 ≤ n) {c : Value} {t : Session}
    (h : Stops (i.limited 0) nodes entry s n (.unfinished n c) t) :
    ∃ u, t.SameState u ∧ ∀ m, n < m →
      Stops (i.limited n) nodes entry s m (.failed n (Fault.stepLimit (.int n)).settled) u := by
  generalize hk : Ending.unfinished n c = e at h
  cases h with
  | halted _ _ => cases hk
  | failed _ _ _ _ => cases hk
  | @unfinished es _ _ course goes all =>
    subst all
    have hes : es ≠ [] := by
      intro h
      simp [h] at hn
    obtain ⟨text, htext⟩ := course.plain_next hes
    obtain ⟨u, hu, same⟩ := turn_limited_self i nodes hn htext
    refine ⟨u, same, fun m hm => ?_⟩
    exact .failed (turnsAlike_limited.course course (Nat.le_refl _)) goes hm hu

variable {submitted : Submission}

theorem run_limited_of_ended {e : Ending} {t : Session}
    (h : (i.limited 0).run n entry submitted s = (e, t)) (he : ∀ c, e ≠ .unfinished n c)
    {m : Nat} (hm : n < m) : (i.limited n).run m entry submitted s = (e, t) := by
  cases hs : (start entry submitted).run s with
  | mk started s₁ =>
    cases started with
    | error f =>
      rw [run_of_start_error hs] at h ⊢
      exact h
    | ok nodes =>
      obtain ⟨w, hw, hc⟩ := stops_of_run hs h
      rw [run_of_stops hs (stops_limited hw he hm), hc]

theorem run_limited_of_unfinished (hn : 1 ≤ n) {c : Value} {t : Session}
    (h : (i.limited 0).run n entry submitted s = (.unfinished n c, t)) :
    ∃ u, t.SameState u ∧ ∀ m, n < m → (i.limited n).run m entry submitted s =
      (.failed n (Fault.stepLimit (.int n)).settled, u) := by
  cases hs : (start entry submitted).run s with
  | mk started s₁ =>
    cases started with
    | error f =>
      rw [run_of_start_error hs] at h
      cases h
    | ok nodes =>
      obtain ⟨w, hw, hc⟩ := stops_of_run hs h
      cases hc
      obtain ⟨u, same, hu⟩ := stops_limited_self hn hw
      exact ⟨u, same, fun m hm => run_of_stops hs (hu m hm)⟩

/-- A run with the ceiling `n` ends like the free run when that halts after at most
`n` evaluations or fails after fewer. Otherwise it fails at the ceiling, in the
state of the free run after `n` evaluations. It ends in any case, and evaluates no
more than `n` nodes. The fault shows the ceiling, so a ceiling that is too long to be
written has the fault of such an integer. -/
theorem run_limited (i : Interpreter) (n : Nat) (hn : 1 ≤ n) (entry : Value)
    (submitted : Submission) (s : Session) :
    (∀ turns k t, (i.limited 0).run turns entry submitted s = (.halted k, t) → k ≤ n →
      ∀ m, n < m → (i.limited n).run m entry submitted s = (.halted k, t)) ∧
    (∀ turns k f t, (i.limited 0).run turns entry submitted s = (.failed k f, t) → k < n →
      ∀ m, n < m → (i.limited n).run m entry submitted s = (.failed k f, t)) ∧
    ((∀ turns k t, (i.limited 0).run turns entry submitted s = (.halted k, t) → n < k) →
      (∀ turns k f t, (i.limited 0).run turns entry submitted s = (.failed k f, t) → n ≤ k) →
      ∃ c t u, (i.limited 0).run n entry submitted s = (.unfinished n c, t) ∧ t.SameState u ∧
        ∀ m, n < m → (i.limited n).run m entry submitted s =
          (.failed n (Fault.stepLimit (.int n)).settled, u)) ∧
    (∀ m, n < m → ∃ e t, (i.limited n).run m entry submitted s = (e, t) ∧
      ((∃ k, k ≤ n ∧ e = .halted k) ∨ (∃ k f, k < n ∧ e = .failed k f) ∨
        e = .failed n (Fault.stepLimit (.int n)).settled)) ∧
    (Numeral.writable n = true → (Fault.stepLimit (.int n)).settled = .stepLimit (.int n)) := by
  refine ⟨fun turns k t h hk m hm => ?_, fun turns k f t h hk m hm => ?_, fun hh hf => ?_,
    fun m hm => ?_, fun hw => Fault.settled_of_text ?_⟩
  · exact run_limited_of_ended (run_of_fitsIn h hk) (fun c hc => nomatch hc) hm
  · exact run_limited_of_ended (run_of_fitsIn h hk) (fun c hc => nomatch hc) hm
  · cases hr : (i.limited 0).run n entry submitted s with
    | mk e t =>
      have he := run_fitsIn hn hr
      cases e with
      | halted k => exact absurd he (Nat.not_le_of_lt (hh n k t hr))
      | failed k f => exact absurd he (Nat.not_lt_of_le (hf n k f t hr))
      | unfinished k c =>
        obtain rfl : k = n := he
        obtain ⟨u, same, hu⟩ := run_limited_of_unfinished hn hr
        exact ⟨c, t, u, rfl, same, hu⟩
  · cases hr : (i.limited 0).run n entry submitted s with
    | mk e t =>
      have he := run_fitsIn hn hr
      cases e with
      | halted k =>
        exact ⟨_, t, run_limited_of_ended hr (fun c hc => nomatch hc) hm, .inl ⟨k, he, rfl⟩⟩
      | failed k f =>
        exact ⟨_, t, run_limited_of_ended hr (fun c hc => nomatch hc) hm,
          .inr (.inl ⟨k, f, he, rfl⟩)⟩
      | unfinished k c =>
        obtain rfl : k = n := he
        obtain ⟨u, -, hu⟩ := run_limited_of_unfinished hn hr
        exact ⟨_, u, hu m hm, .inr (.inr rfl)⟩
  · simp [Fault.text?, Scalar.plain?, Scalar.shown?, Numeral.write?, hw]

def builtIn : Interpreter := ⟨.builtIn, .full, none⟩

def loop : Submission :=
  .list [.assembled (.text "flow.noop") [] (.entries [("next", .int 0)])]

def blank : Session := ⟨⟨.empty, .null, #[]⟩, .empty⟩

def goesOn : Ending → Bool
  | .unfinished _ _ => true
  | _ => false

theorem run_limited_loop : 1 ≤ 2 ∧ ∃ u, ∀ m, 2 < m →
    (builtIn.limited 2).run m (.int 0) loop blank = (.failed 2 (.stepLimit (.int 2)), u) := by
  have going : goesOn ((builtIn.limited 0).run 2 (.int 0) loop blank).1 = true := by
    decide +kernel
  have late {turns : Nat} {e : Ending} {t : Session}
      (h : (builtIn.limited 0).run turns (.int 0) loop blank = (e, t)) (he : FitsIn 2 e) :
      goesOn e = true := by
    rw [run_of_fitsIn h he] at going
    exact going
  obtain ⟨-, -, atCeiling, -, fault⟩ := run_limited builtIn 2 (by decide) (.int 0) loop blank
  obtain ⟨c, t, u, -, -, hu⟩ := atCeiling
    (fun turns k t h => Nat.lt_of_not_le fun hk => nomatch late h hk)
    (fun turns k f t h => Nat.le_of_not_lt fun hk => nomatch late h hk)
  have hf : (Fault.stepLimit (.int 2)).settled = .stepLimit (.int 2) := fault (by decide +kernel)
  refine ⟨by decide, u, fun m hm => ?_⟩
  rw [← hf]
  exact hu m hm

end Interpreter
end NodeWalk
