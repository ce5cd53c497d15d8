import Mathlib.Logic.Function.Basic
import NodeWalk.Proofs.Isolation

set_option autoImplicit false

/-!
# Runs at the same time

Several interpreters run over the same objects, each on a document that it has opened for
itself. They may have been given the same graph. Their steps are taken in any order; an
evaluation of a node is one step. What is live in one run is never reached from another,
so each of them does what it does alone.
-/
namespace NodeWalk

structure Job where
  interpreter : Interpreter
  origin : Origin
  entry : Value
  submitted : Submission

inductive Stage where
  | waiting
  | opened
  | walking (nodes : List Node) (steps : Nat) (current : Value)
  | ended (e : Ending)

structure Lane where
  stage : Stage
  root : Value
  log : Array Notice
  record : Record
  /-- The positions of the nodes that its turns came to, in order. -/
  visited : List Nat

namespace Lane

def new : Lane := ⟨.waiting, .null, #[], .empty, []⟩

def session (l : Lane) (h : Objects) : Session := ⟨⟨h, l.root, l.log⟩, l.record⟩

def enter (l : Lane) (stage : Stage) (s : Session) : Lane × Objects :=
  ({ l with stage := stage, root := s.store.root, log := s.store.log, record := s.record },
    s.store.objects)

def visit (l : Lane) (nodes : List Node) (current : Value) : Lane :=
  { l with visited := l.visited ++ ((Interpreter.find? nodes current).map Prod.fst).toList }

def started (l : Lane) (entry : Value) : Except Fault (List Node) × Session → Lane × Objects
  | (.ok nodes, s) => l.enter (.walking nodes 0 entry) s
  | (.error f, s) => l.enter (.ended (.failed 0 f)) s

def turned (l : Lane) (nodes : List Node) (steps : Nat) :
    Except Fault Node.Evaluation × Session → Lane × Objects
  | (.ok e, s) => l.enter (.walking nodes (steps + 1) e.output.next) s
  | (.error f, s) => l.enter (.ended (.failed steps f)) s

end Lane

/-- The next step of a run: it opens its document, starts, takes a turn, or tells that it
has halted. -/
def Job.step (j : Job) (l : Lane) (h : Objects) : Lane × Objects :=
  match l.stage with
  | .waiting => l.enter .opened ⟨j.origin.opened h, .empty⟩
  | .opened => l.started j.entry ((Interpreter.start j.entry j.submitted).run (l.session h))
  | .walking nodes steps current =>
    if current = .null then
      l.enter (.ended (.halted steps)) (Interpreter.conclude (.halted steps, l.session h)).2
    else
      (l.visit nodes current).turned nodes steps
        ((j.interpreter.turn nodes steps current).run (l.session h))
  | .ended _ => (l, h)

structure Runs (ι : Type) where
  objects : Objects
  lanes : ι → Lane

namespace Runs

variable {ι : Type}

def view (w : Runs ι) (k : ι) : Lane × Objects := (w.lanes k, w.objects)

variable [DecidableEq ι]

def step (jobs : ι → Job) (w : Runs ι) (k : ι) : Runs ι :=
  let (lane, h) := (jobs k).step (w.lanes k) w.objects
  ⟨h, Function.update w.lanes k lane⟩

/-- The runs after the steps of the schedule, which names a run for each step. -/
def after (jobs : ι → Job) (h : Objects) (schedule : List ι) : Runs ι :=
  schedule.foldl (step jobs) ⟨h, fun _ => .new⟩

theorem after_concat (jobs : ι → Job) (h : Objects) (schedule : List ι) (k : ι) :
    after jobs h (schedule ++ [k]) = step jobs (after jobs h schedule) k := by
  simp [after, List.foldl_append]

end Runs

def Job.alone (j : Job) (h : Objects) : Nat → Lane × Objects
  | 0 => (.new, h)
  | n + 1 => j.step (j.alone h n).1 (j.alone h n).2

variable {p s s' s₁ : Scope} {h g g' : Objects} {ρ : Renaming} {l l' : Lane} {j : Job}

def Stage.Follows (ρ : Renaming) (s : Scope) : Stage → Stage → Prop
  | .waiting, .waiting => True
  | .opened, .opened => True
  | .walking nodes k c, .walking nodes' k' c' =>
    nodes' = nodes ∧ k' = k ∧ Within s c ∧ c' = rename ρ c
  | .ended e, .ended e' => e.Follows ρ s e'
  | _, _ => False

@[simp] theorem Stage.follows_ended_iff {a : Stage} {e : Ending} :
    a.Follows ρ s (.ended e) ↔ ∃ e', a = .ended e' ∧ e'.Follows ρ s e := by
  cases a <;> simp [Follows]

@[simp] theorem Stage.ended_follows_iff {b : Stage} {e : Ending} :
    Stage.Follows ρ s (.ended e) b ↔ ∃ e', b = .ended e' ∧ e.Follows ρ s e' := by
  cases b <;> simp [Follows]

def Lane.Alike (x y : Lane × Objects) : Prop :=
  ∃ ρ s, Session.Linked ρ s (x.1.session x.2) (y.1.session y.2) ∧
    Stage.Follows ρ s x.1.stage y.1.stage ∧ y.1.visited = x.1.visited

/-- Stages that are alike, and what a next step needs. -/
inductive Stage.Twins (p : Scope) (ρ : Renaming) (s s' : Scope) : Stage → Stage → Prop where
  | waiting (new : s = Origin.marksOf p) : Twins p ρ s s' .waiting .waiting
  | opened : Twins p ρ s s' .opened .opened
  | walking {nodes : List Node} {k : Nat} {c : Value} (nodes_within : Within p nodes)
    (within : Within s c) (within' : Within s' (rename ρ c)) :
    Twins p ρ s s' (.walking nodes k c) (.walking nodes k (rename ρ c))
  | ended {e e' : Ending} (alike : e.Follows ρ s e') : Twins p ρ s s' (.ended e) (.ended e')

theorem Stage.Twins.follows {a b : Stage} (ht : Stage.Twins p ρ s s' a b) : a.Follows ρ s b := by
  cases ht with
  | waiting _ => trivial
  | opened => trivial
  | walking _ hc _ => exact ⟨rfl, rfl, hc, rfl⟩
  | ended he => exact he

/-- Lanes that have come to the same, the first with `s` for its own. -/
def Lane.Twins (p : Scope) (h : Objects) (s : Scope) (x y : Lane × Objects) : Prop :=
  ∃ ρ s', Session.Twins .same p p h h ρ s s' (x.1.session x.2) (y.1.session y.2) ∧
    Stage.Twins p ρ s s' x.1.stage y.1.stage ∧ y.1.visited = x.1.visited

theorem Lane.Twins.alike {x y : Lane × Objects} (ht : Lane.Twins p h s x y) : Lane.Alike x y := by
  obtain ⟨ρ, s', hs, hstage, hvisited⟩ := ht
  exact ⟨ρ, s, hs.linked, hstage.follows, hvisited⟩

/-- The job is made of what its caller holds, for an interpreter with local behaviors. -/
structure Job.Given (p : Scope) (j : Job) : Prop where
  behaviors : j.interpreter.registry.Local
  origin : j.origin.From p
  submitted : Within p j.submitted
  entry : Within p j.entry

/-- The step of the first side widens its scope. -/
def Lane.Steps (p : Scope) (h : Objects) (s : Scope) (j : Job) (x y : Lane × Objects) : Prop :=
  ∃ s₁, Lane.Twins p h s₁ (j.step x.1 x.2) (j.step y.1 y.2) ∧
    Widens s (x.1.session x.2).store s₁ ((j.step x.1 x.2).1.session (j.step x.1 x.2).2).store

namespace Job

variable {nodes : List Node} {k : Nat} {current : Value}

theorem step_waiting (hl : l.stage = .waiting) :
    j.step l g = l.enter .opened ⟨j.origin.opened g, .empty⟩ := by
  rw [step, hl]

theorem step_opened (hl : l.stage = .opened) : j.step l g =
    l.started j.entry ((Interpreter.start j.entry j.submitted).run (l.session g)) := by
  rw [step, hl]

theorem step_null (hl : l.stage = .walking nodes k .null) :
    j.step l g = l.enter (.ended (.halted k))
      (Interpreter.conclude (.halted k, l.session g)).2 := by
  rw [step, hl]
  exact if_pos rfl

theorem step_walking (hl : l.stage = .walking nodes k current) (hc : current ≠ .null) :
    j.step l g = (l.visit nodes current).turned nodes k
      ((j.interpreter.turn nodes k current).run (l.session g)) := by
  rw [step, hl]
  exact if_neg hc

theorem step_ended {e : Ending} (hl : l.stage = .ended e) : j.step l g = (l, g) := by
  rw [step, hl]

end Job

namespace Lane

variable {s₂ : Scope} {nodes : List Node} {k : Nat} {current : Value}

theorem steps_waiting (hj : j.Given p)
    (ht : Session.Twins .same p p h h ρ (Origin.marksOf p) s' (l.session g) (l'.session g'))
    (hl : l.stage = .waiting) (hl' : l'.stage = .waiting) (hv : l'.visited = l.visited) :
    Steps p h (Origin.marksOf p) j (l, g) (l', g') := by
  obtain ⟨ρ₁, s₁, s₂, ht₁, hw₁⟩ :=
    Interpreter.opened_twins ht.apart.same ht.apart'.same hj.origin
  refine ⟨s₁, ⟨ρ₁, s₂, ?_⟩, ?_⟩
  · rw [Job.step_waiting hl, Job.step_waiting hl']
    exact ⟨ht₁, .opened, hv⟩
  · rw [Job.step_waiting hl]
    exact ⟨hw₁.le, hw₁.fresh, hw₁.frame, hw₁.size, hw₁.mark⟩

theorem steps_opened (hj : j.Given p)
    (ht : Session.Twins .same p p h h ρ s s' (l.session g) (l'.session g'))
    (hl : l.stage = .opened) (hl' : l'.stage = .opened) (hv : l'.visited = l.visited) :
    Steps p h s j (l, g) (l', g') := by
  have hsub' : Within p (rename .same j.submitted) := by
    rw [Interpreter.rename_same]
    exact hj.submitted
  obtain ⟨r, r', u, u', hr, hr', ht₁, hk, hends⟩ := Interpreter.start_twins
    (ht.emptied (.refl _) (.refl _)) hj.submitted hsub' hj.entry
  rw [Interpreter.rename_same, Interpreter.rename_same] at hr'
  refine ⟨s, ?_⟩
  dsimp only
  rw [Job.step_opened hl, Job.step_opened hl', hr, hr']
  obtain ⟨nodes, n, rfl, rfl, hn, -, hentry⟩ | ⟨f, f', rfl, rfl, hf⟩ := hends
  · rw [hentry, Interpreter.rename_same nodes]
    exact ⟨⟨ρ, s', ht₁, .walking hn (within_int s n) (within_int s' n), hv⟩, .kept s hk.toKept⟩
  · exact ⟨⟨ρ, s', ht₁, .ended ⟨rfl, hf⟩, hv⟩, .kept s hk.toKept⟩

theorem steps_null (ht : Session.Twins .same p p h h ρ s s' (l.session g) (l'.session g'))
    (hl : l.stage = .walking nodes k .null) (hl' : l'.stage = .walking nodes k .null)
    (hv : l'.visited = l.visited) : Steps p h s j (l, g) (l', g') := by
  refine ⟨s, ?_⟩
  dsimp only
  rw [Job.step_null hl, Job.step_null hl']
  refine ⟨⟨ρ, s', ?_, .ended rfl, hv⟩, .kept s (.refl _)⟩
  exact
    { linked := ⟨⟨ht.linked.toMirrors, ht.linked.root, ht.linked.imageRoot⟩, ht.linked.nodes,
        ht.linked.record, ht.linked.imageRecord⟩
      twinned := ht.twinned
      apart := ht.apart.kept ⟨.refl _, rfl⟩
      apart' := ht.apart'.kept ⟨.refl _, rfl⟩
      marks := ht.marks }

theorem steps_walking (hj : j.Given p)
    (ht : Session.Twins .same p p h h ρ s s' (l.session g) (l'.session g')) (hn : Within p nodes)
    (hc : Within s current) (hc' : Within s' (rename ρ current)) (hnull : current ≠ .null)
    (hl : l.stage = .walking nodes k current) (hl' : l'.stage = .walking nodes k (rename ρ current))
    (hv : l'.visited = l.visited) : Steps p h s j (l, g) (l', g') := by
  have hnull' : rename ρ current ≠ .null := fun he => hnull (Reply.rename_eq_null_iff.1 he)
  have hfind : (l'.visit nodes (rename ρ current)).visited = (l.visit nodes current).visited := by
    have hrename := Interpreter.find?_rename ρ .same nodes current
    rw [Interpreter.rename_same, Interpreter.rename_same] at hrename
    rw [visit, visit, hv, hrename]
  have hn' : Within p (rename .same nodes) := by rwa [Interpreter.rename_same]
  cases hr : (j.interpreter.turn nodes k current).run (l.session g) with
  | mk r u =>
    cases hr' : (j.interpreter.turn nodes k (rename ρ current)).run (l'.session g') with
    | mk r' u' =>
      obtain ⟨ρ₁, s₁, s₃, ht₁, hw₁, hmatches, he₃⟩ :=
        Interpreter.turn_twins hj.behaviors ht k hn hn' hc hc' hr
          (by rw [Interpreter.rename_same]; exact hr')
      refine ⟨s₁, ?_⟩
      dsimp only
      rw [Job.step_walking hl hnull, Job.step_walking hl' hnull', hr, hr']
      obtain ⟨e, rfl, rfl, he⟩ | ⟨f, f', rfl, rfl, hf⟩ := Matches.split hmatches
      · exact ⟨⟨ρ₁, s₃, ht₁, .walking hn he.2 (he₃ _ rfl).2, hfind⟩, hw₁⟩
      · exact ⟨⟨ρ₁, s₃, ht₁, .ended ⟨rfl, hf⟩, hfind⟩, hw₁⟩

/-- Twins that take a step of the same job are twins again. -/
theorem Twins.steps (hj : j.Given p) {x y : Lane × Objects} (ht : Twins p h s x y) :
    Steps p h s j x y := by
  obtain ⟨l, g⟩ := x
  obtain ⟨l', g'⟩ := y
  obtain ⟨ρ, s', ht, hstage, hv⟩ := ht
  dsimp only at ht hstage hv
  generalize hl : l.stage = a at hstage
  generalize hl' : l'.stage = a' at hstage
  cases hstage with
  | waiting hnew =>
    subst hnew
    exact steps_waiting hj ht hl hl' hv
  | opened => exact steps_opened hj ht hl hl' hv
  | @walking nodes k c hn hc hc' =>
    by_cases hnull : c = .null
    · subst hnull
      exact steps_null ht hl hl' hv
    · exact steps_walking hj ht hn hc hc' hnull hl hl' hv
  | @ended e e' he =>
    refine ⟨s, ?_⟩
    dsimp only
    rw [Job.step_ended hl, Job.step_ended hl']
    refine ⟨⟨ρ, s', ht, ?_, hv⟩, .refl s _⟩
    dsimp only
    rw [hl, hl']
    exact .ended he

/-- What happens outside the scopes of twins does not tell them apart. -/
theorem Twins.framed {s₀ : Scope} {t u : Store} {y : Lane × Objects}
    (ht : Twins p h s (l, t.objects) y) (hw : Widens s₀ t s₁ u)
    (hd : ∀ a ∈ s.cells, a ∉ s₀.cells) (hp : ∀ a ∈ p.cells, a ∉ s₀.cells) :
    Twins p h s (l, u.objects) y := by
  obtain ⟨ρ, s', ht, hstage, hv⟩ := ht
  have hw : Widens s₀ (l.session t.objects).store s₁ (l.session u.objects).store :=
    ⟨hw.le, hw.fresh, hw.frame, hw.size, hw.mark⟩
  have hholds := ht.apart.live.holds.apart hw hd
  refine ⟨ρ, s', ⟨?_, ht.twinned, ?_, ht.apart', ht.marks⟩, hstage, hv⟩
  · have hcell : ∀ a ∈ s.cells, (y.1.session y.2).store.objects.cell (ρ.cell a) =
        rename ρ ((l.session u.objects).store.objects.cell a) := fun a ha => by
      rw [hw.frame a (ht.linked.size a ha) (hd a ha)]
      exact ht.linked.cell a ha
    exact
      { hholds, ht.linked with
        cell := hcell }
  · exact
      { live := ⟨hholds, ht.apart.live.root, ht.apart.live.nodes, ht.apart.live.record⟩
        same := ht.apart.same.widened hw hp
        disjoint := ht.apart.disjoint
        marks := ht.apart.marks }

theorem twins_new (hp : h.Holds p) :
    Twins p h (Origin.marksOf p) (.new, h) (.new, h) := by
  have hempty : h.Holds (Origin.marksOf p) :=
    ⟨fun _ ha => ha.elim, fun _ ha => ha.elim, hp.mark, hp.zero⟩
  have hlive : Session.Live (Origin.marksOf p) (Lane.new.session h) :=
    ⟨hempty, within_null _, fun _ he => (nomatch he), within_nil _⟩
  have hapart : Session.Apart p h (Origin.marksOf p) (Lane.new.session h) :=
    ⟨hlive, ⟨hp, fun _ _ => rfl⟩, fun _ _ ha => ha.elim, fun _ hm => hm⟩
  exact ⟨.same, Origin.marksOf p, ⟨hlive.linked, .same p h, hapart, hapart, fun _ _ => rfl⟩,
    .waiting rfl, rfl⟩

end Lane

namespace Runs

variable {ι : Type} {jobs : ι → Job} {w : Runs ι} {alone : ι → Lane × Objects} {scopes : ι → Scope}

/-- Every run has a scope of its own, in which it has come to what it comes to alone. -/
structure Separate (p : Scope) (h : Objects) (w : Runs ι) (alone : ι → Lane × Objects)
    (scopes : ι → Scope) : Prop where
  twins : ∀ k, Lane.Twins p h (scopes k) (w.view k) (alone k)
  disjoint : ∀ i k, i ≠ k → ∀ a ∈ (scopes i).cells, a ∉ (scopes k).cells

variable [DecidableEq ι]

/-- A step of one run changes nothing in the scopes of the others. -/
theorem Separate.step (hw : Separate p h w alone scopes) {k : ι} (hj : (jobs k).Given p) :
    ∃ s₁, Separate p h (w.step jobs k)
      (Function.update alone k ((jobs k).step (alone k).1 (alone k).2))
      (Function.update scopes k s₁) := by
  obtain ⟨s₁, htwins, hwidens⟩ := (hw.twins k).steps hj
  obtain ⟨ρ, s', hown, -⟩ := hw.twins k
  have hother {i : ι} (hi : i ≠ k) : ∀ a ∈ (scopes i).cells, a ∉ s₁.cells := by
    obtain ⟨_, _, hi', -⟩ := hw.twins i
    exact hwidens.disjoint hi'.apart.live.holds (hw.disjoint i k hi)
  refine ⟨s₁, fun i => ?_, fun i i' hne a ha => ?_⟩
  · by_cases hi : i = k
    · subst hi
      simp only [Function.update_self, Runs.step, view]
      exact htwins
    · simp only [Function.update_of_ne hi, Runs.step, view]
      exact (hw.twins i).framed hwidens (hw.disjoint i k hi) hown.apart.disjoint
  · by_cases hi : i = k
    · subst hi
      rw [Function.update_self] at ha
      rw [Function.update_of_ne (Ne.symm hne)]
      exact fun ha' => hother (Ne.symm hne) a ha' ha
    · rw [Function.update_of_ne hi] at ha
      by_cases hi' : i' = k
      · subst hi'
        rw [Function.update_self]
        exact hother hi a ha
      · rw [Function.update_of_ne hi']
        exact hw.disjoint i i' hne a ha

/-- After any schedule every run has come to what its own steps of it come to alone. -/
theorem separate_after (hp : h.Holds p) (hjobs : ∀ k, (jobs k).Given p) (schedule : List ι) :
    ∃ scopes, Separate p h (after jobs h schedule)
      (fun k => (jobs k).alone h (schedule.count k)) scopes := by
  induction schedule using List.reverseRecOn with
  | nil => exact ⟨fun _ => Origin.marksOf p, fun _ => Lane.twins_new hp, fun _ _ _ _ ha => ha.elim⟩
  | append_singleton schedule k ih =>
    obtain ⟨scopes, hw⟩ := ih
    obtain ⟨s₁, hw₁⟩ := hw.step (hjobs k)
    refine ⟨Function.update scopes k s₁, ?_⟩
    rw [after_concat]
    have halone : (fun i => (jobs i).alone h ((schedule ++ [k]).count i)) =
        Function.update (fun i => (jobs i).alone h (schedule.count i)) k
          ((jobs k).alone h (schedule.count k + 1)) := by
      funext i
      by_cases hi : i = k
      · subst hi
        simp [List.count_append]
      · have hcount : List.count i [k] = 0 := List.count_eq_zero.2 (by simpa using hi)
        simp [List.count_append, hcount, Function.update_of_ne hi]
    rw [halone]
    exact hw₁

end Runs

end NodeWalk
