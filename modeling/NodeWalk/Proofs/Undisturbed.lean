import NodeWalk.Proofs.History
import NodeWalk.Proofs.Interleaving

set_option autoImplicit false

/-!
# Undisturbed runs

The steps of a job that is alone are those of its run: it opens the document, starts, and
takes the turns of the course one by one until it has ended. Among other runs it comes
to the same, whichever order the steps are taken in.
-/
namespace NodeWalk

open Node (Evaluation)

structure Lane.At (x : Lane × Objects) (stage : Stage) (s : Session) (visited : List Nat) :
    Prop where
  stage : x.1.stage = stage
  session : x.1.session x.2 = s
  visited : x.1.visited = visited

namespace Job

variable {j : Job} {h : Objects} {nodes : List Node} {n turns : Nat} {c : Value} {e : Ending}
  {s t u : Session} {es : List Evaluation} {f : Fault}

def opening (j : Job) (h : Objects) : Session := ⟨j.origin.opened h, .empty⟩

def run (j : Job) (h : Objects) (turns : Nat) : Ending × Session :=
  j.interpreter.run turns j.entry j.submitted (j.opening h)

theorem alone_opened (j : Job) (h : Objects) : Lane.At (j.alone h 1) .opened (j.opening h) [] :=
  ⟨rfl, rfl, rfl⟩

theorem alone_two (j : Job) (h : Objects) : j.alone h 2 = (j.alone h 1).1.started j.entry
    ((Interpreter.start j.entry j.submitted).run (j.opening h)) :=
  step_opened (alone_opened j h).stage

theorem alone_course
    (hstart : (Interpreter.start j.entry j.submitted).run (j.opening h) = (.ok nodes, s))
    (hcourse : j.interpreter.Course nodes j.entry s es c t) :
    Lane.At (j.alone h (es.length + 2)) (.walking nodes es.length c) t (es.map (·.index)) := by
  induction hcourse with
  | start =>
    have htwo := alone_two j h
    rw [hstart] at htwo
    rw [List.length_nil, Nat.zero_add, htwo]
    exact ⟨rfl, rfl, rfl⟩
  | @next es c t u e before goes turn ih =>
    obtain ⟨n, hf⟩ := Interpreter.found_of_turn turn
    have hstep := step_walking (j := j) (g := (j.alone h (es.length + 2)).2) ih.stage goes
    rw [ih.session, turn] at hstep
    have hlength : (es ++ [e]).length + 2 = es.length + 2 + 1 := by
      rw [List.length_append, List.length_singleton]
    rw [hlength, alone, hstep]
    refine ⟨?_, rfl, ?_⟩
    · rw [List.length_append, List.length_singleton]
      rfl
    · have hvisited : ((j.alone h (es.length + 2)).1.visit nodes c).visited =
          (es ++ [e]).map (·.index) := by
        rw [Lane.visit, ih.visited, hf, List.map_append]
        rfl
      exact hvisited

theorem alone_add (hend : (j.alone h n).1.stage = .ended e) (m : Nat) :
    j.alone h (n + m) = j.alone h n := by
  induction m with
  | zero => rfl
  | succ m ih =>
    rw [← Nat.add_assoc, alone, ih]
    exact step_ended hend

theorem alone_of_run (hr : j.run h turns = (e, u)) (he : ∀ k c, e ≠ .unfinished k c) :
    ∃ n, n ≤ turns + 3 ∧ (j.alone h n).1.stage = .ended e ∧
      (j.alone h n).1.session (j.alone h n).2 = u := by
  cases hstart : (Interpreter.start j.entry j.submitted).run (j.opening h) with
  | mk started s =>
    cases started with
    | error f =>
      have htwo := alone_two j h
      rw [hstart] at htwo
      rw [run, Interpreter.run_of_start_error hstart] at hr
      cases hr
      exact ⟨2, by omega, by rw [htwo]; rfl, by rw [htwo]; rfl⟩
    | ok nodes =>
      obtain ⟨w, hstops, hconclude⟩ := Interpreter.stops_of_run hstart hr
      cases hstops with
      | @halted es t course within =>
        have hat := alone_course hstart course
        have hstep := step_null (j := j) (g := (j.alone h (es.length + 2)).2) hat.stage
        rw [hat.session] at hstep
        refine ⟨es.length + 3, by omega, ?_, ?_⟩
        · rw [alone, hstep]
          rfl
        · rw [alone, hstep]
          exact congrArg Prod.snd hconclude
      | @failed es c t w f course goes within turn =>
        have hat := alone_course hstart course
        have hstep := step_walking (j := j) (g := (j.alone h (es.length + 2)).2) hat.stage goes
        rw [hat.session, turn] at hstep
        refine ⟨es.length + 3, by omega, ?_, ?_⟩
        · rw [alone, hstep]
          rfl
        · rw [alone, hstep]
          exact congrArg Prod.snd hconclude
      | unfinished _ _ _ => exact absurd rfl (he _ _)

theorem alone_of_unfinished {k : Nat} (hr : j.run h turns = (.unfinished k c, u)) :
    ∃ nodes, (j.alone h (turns + 2)).1.stage = .walking nodes k c := by
  cases hstart : (Interpreter.start j.entry j.submitted).run (j.opening h) with
  | mk started s =>
    cases started with
    | error f =>
      rw [run, Interpreter.run_of_start_error hstart] at hr
      cases hr
    | ok nodes =>
      obtain ⟨w, hstops, -⟩ := Interpreter.stops_of_run hstart hr
      cases hstops with
      | unfinished course goes all => exact ⟨nodes, all ▸ (alone_course hstart course).stage⟩

theorem run_of_alone (hend : (j.alone h n).1.stage = .ended e) :
    ∃ turns, j.run h turns = (e, (j.alone h n).1.session (j.alone h n).2) := by
  refine ⟨n, ?_⟩
  cases hr : j.run h n with
  | mk e' u =>
    have hended : ∀ k c, e' ≠ .unfinished k c := by
      rintro k c rfl
      obtain ⟨nodes, hwalking⟩ := alone_of_unfinished hr
      rw [alone_add hend 2, hend] at hwalking
      cases hwalking
    obtain ⟨m, hm, hstage, hsession⟩ := alone_of_run hr hended
    have hsame : j.alone h m = j.alone h n := by
      rcases Nat.le_total n m with hle | hle
      · rw [← Nat.add_sub_of_le hle, alone_add hend]
      · rw [← Nat.add_sub_of_le hle, alone_add hstage]
    rw [hsame, hend] at hstage
    rw [hsame] at hsession
    rw [Stage.ended.inj hstage, hsession]

end Job

theorem Lane.Alike.comes {x y : Lane × Objects} (hx : Lane.Alike x y) {e : Ending}
    (he : y.1.stage = .ended e) : ∃ e', x.1.stage = .ended e' ∧
      Interpreter.Comes (e', x.1.session x.2) (e, y.1.session y.2) := by
  obtain ⟨ρ, s, hl, hstage, -⟩ := hx
  rw [he, Stage.follows_ended_iff] at hstage
  obtain ⟨e', he', hfollows⟩ := hstage
  exact ⟨e', he', ρ, s, hl, hfollows⟩

theorem Lane.Alike.ended {x y : Lane × Objects} (hx : Lane.Alike x y) {e' : Ending}
    (he : x.1.stage = .ended e') : ∃ e, y.1.stage = .ended e := by
  obtain ⟨ρ, s, -, hstage, -⟩ := hx
  rw [he, Stage.ended_follows_iff] at hstage
  obtain ⟨e, he, -⟩ := hstage
  exact ⟨e, he⟩

namespace Runs

variable {ι : Type} [DecidableEq ι] {jobs : ι → Job} {p : Scope} {h : Objects}

/-- Jobs are given what one caller holds, be it the same graph, and take their steps in any
order. What each has come to after some steps of its own is what it comes to alone: it has
been at the same nodes, it ends if its run ends and then in the same way, with the same
document and the same record, and what the caller holds is as it was. -/
theorem jobs_undisturbed (hp : h.Holds p) (hjobs : ∀ k, (jobs k).Given p) (schedule : List ι)
    (k : ι) :
    let x := (after jobs h schedule).view k
    Lane.Alike x ((jobs k).alone h (schedule.count k)) ∧
    (∀ a ∈ p.cells, x.2.cell a = h.cell a) ∧
    (∀ nodes s es c t,
      (Interpreter.start (jobs k).entry (jobs k).submitted).run ((jobs k).opening h) =
        (.ok nodes, s) → (jobs k).interpreter.Course nodes (jobs k).entry s es c t →
      schedule.count k = es.length + 2 → x.1.visited = es.map (·.index)) ∧
    (∀ turns e u, (jobs k).run h turns = (e, u) → (∀ n c, e ≠ .unfinished n c) →
      turns + 3 ≤ schedule.count k → ∃ e', x.1.stage = .ended e' ∧
        Interpreter.Comes (e', x.1.session x.2) (e, u)) ∧
    ∀ e', x.1.stage = .ended e' → ∃ turns e u, (jobs k).run h turns = (e, u) ∧
      Interpreter.Comes (e', x.1.session x.2) (e, u) := by
  intro x
  obtain ⟨scopes, hw⟩ := separate_after hp hjobs schedule
  have htwins : Lane.Twins p h (scopes k) x ((jobs k).alone h (schedule.count k)) := hw.twins k
  have halike := htwins.alike
  refine ⟨halike, ?_, ?_, ?_, ?_⟩
  · obtain ⟨_, _, ht, -⟩ := htwins
    exact ht.apart.same.cell
  · intro nodes s es c t hstart hcourse hcount
    obtain ⟨_, _, -, -, hvisited⟩ := halike
    have hat := Job.alone_course hstart hcourse
    rw [← hvisited, hcount, hat.visited]
  · intro turns e u hr he hcount
    obtain ⟨m, hm, hstage, hsession⟩ := Job.alone_of_run hr he
    have hsame : (jobs k).alone h (schedule.count k) = (jobs k).alone h m := by
      rw [← Nat.add_sub_of_le (Nat.le_trans hm hcount), Job.alone_add hstage]
    rw [hsame] at halike
    rw [← hsession]
    exact halike.comes hstage
  · intro e' he'
    obtain ⟨e, he⟩ := halike.ended he'
    obtain ⟨turns, hr⟩ := Job.run_of_alone he
    obtain ⟨e'', he'', hcomes⟩ := halike.comes he
    obtain rfl := Stage.ended.inj (he'.symm.trans he'')
    exact ⟨turns, e, _, hr, hcomes⟩

def listingJobs : Bool → Job :=
  fun _ => ⟨Interpreter.builtIn, .value (.ref 4), .int 0, .value (.ref 3)⟩

theorem given_listingJobs (k : Bool) : (listingJobs k).Given Interpreter.ofListing where
  behaviors := Registry.local_builtIn
  origin := show (4 : Nat) < 5 by decide
  submitted := show (3 : Nat) < 5 by decide
  entry := within_int _ 0

def listingSchedule : List Bool := [true, false, false, true, true, false, false, true]

theorem halted_listingJobs :
    ((listingJobs true).run Interpreter.listing.store.objects 1).1 = .halted 1 :=
  Ending.eq_halted (by decide +kernel)

def listingRuns : Runs Bool :=
  after listingJobs Interpreter.listing.store.objects listingSchedule

theorem jobs_undisturbed_listing :
    Interpreter.listing.store.objects.Holds Interpreter.ofListing ∧
      (∀ k, (listingJobs k).Given Interpreter.ofListing) ∧
      ∃ u e', (listingJobs true).run Interpreter.listing.store.objects 1 = (.halted 1, u) ∧
        (listingRuns.view true).1.stage = .ended e' ∧
        Interpreter.Comes (e', (listingRuns.view true).1.session (listingRuns.view true).2)
          (.halted 1, u) := by
  rw [listingRuns]
  refine ⟨Interpreter.holds_listing, given_listingJobs, ?_⟩
  obtain ⟨-, -, -, hends, -⟩ := jobs_undisturbed Interpreter.holds_listing given_listingJobs
    listingSchedule true
  obtain ⟨⟨e, u⟩, hr⟩ : ∃ r, (listingJobs true).run Interpreter.listing.store.objects 1 = r :=
    ⟨_, rfl⟩
  have hhalted := halted_listingJobs
  rw [hr] at hhalted
  obtain rfl : e = .halted 1 := hhalted
  obtain ⟨e', hstage, hcomes⟩ := hends 1 _ u hr (fun _ _ he => nomatch he) (by decide)
  exact ⟨u, e', hr, hstage, hcomes⟩

end Runs
end NodeWalk
