import NodeWalk.Proofs.LocalBuiltIn
import NodeWalk.Proofs.RunAgain
import NodeWalk.Proofs.StepCeiling

set_option autoImplicit false

/-!
# Isolated runs

What a caller holds on to, graphs and documents, stays apart from all that is live in
the sessions of an interpreter with local behaviors. So no run changes a graph, and a
graph that is run again on a newly opened document does what it did the first time.
-/
namespace NodeWalk

/-- The cells are as in `h`, and neither the document nor anything recorded leads to
one of them. -/
structure Session.Isolates (cells : Set Nat) (h : Objects) (t : Session) : Prop where
  kept : ∀ a ∈ cells, t.store.objects.cell a = h.cell a
  root : ∀ a ∈ t.store.objects.reach t.store.root, a ∉ cells
  record : ∀ e ∈ t.record.entries, ∀ a ∈ t.store.objects.reach e.2, a ∉ cells

namespace Session

variable {h : Objects} {s p : Scope} {t : Session}

theorem Apart.not_reached (ha : Apart p h s t) {v : Value} (hv : Within s v) :
    ∀ a ∈ t.store.objects.reach v, a ∉ p.cells :=
  fun a hr hp => ha.disjoint a hp (ha.live.holds.reach_subset hv a hr)

theorem Apart.isolates (ha : Apart p h s t) : t.Isolates p.cells h where
  kept := ha.same.cell
  root := ha.not_reached ha.live.root
  record e he := ha.not_reached (ha.live.record e he)

theorem Apart.kept (ha : Apart p h s t) {u : Store} (hk : t.store.Keeps u) :
    Apart p h s ⟨u, t.record⟩ where
  live :=
    { holds := ha.live.holds.kept hk.toKept
      root := by rw [hk.root]; exact ha.live.root
      nodes := ha.live.nodes
      record := ha.live.record }
  same := ha.same.kept hk.toKept
  disjoint := ha.disjoint
  marks := ha.marks

theorem Apart.opened (ha : Apart p h s t) {q : Scope} {o : Origin}
    (hq : t.store.objects.Holds q) (ho : o.From q) :
    ∃ s', Apart p h s' ⟨o.opened t.store.objects, t.record⟩ := by
  obtain ⟨ρ, s₁, hl, hg⟩ := Origin.opened_linked hq.mirrors ho
  have hk := Origin.kept_opened hq ho
  refine ⟨s.join s₁, ?_, ha.same.kept hk, ?_, fun _ hm => .inl (ha.marks hm)⟩
  · exact
      { holds := (ha.live.holds.kept hk).join hl.toHolds
        root := Carries.mono (s.le_join_right s₁) hl.root
        nodes := ha.live.nodes
        record := Carries.mono (s.le_join_left s₁) ha.live.record }
  · rintro a hp (hs | hs)
    · exact ha.disjoint a hp hs
    · exact absurd (ha.same.holds.size a hp)
        (Nat.not_lt_of_le (hg.fresh a hs fun hn => hn.elim))

end Session

namespace Interpreter

open Node (Evaluation)

/-- The sessions that an interpreter comes to: it runs one graph after the other, to
whatever end, and between the runs further objects are made and other documents are
opened. A graph, or what a document is opened from, only has to be there. -/
inductive Reached (i : Interpreter) (s : Session) : Session → Prop where
  | first : Reached i s s
  | ran {t u : Session} {q : Scope} {turns : Nat} {entry : Value} {submitted : Submission}
      {e : Ending} (before : Reached i s t) (holds : t.store.objects.Holds q)
      (within : Within q submitted) (run : i.run turns entry submitted t = (e, u)) :
      Reached i s u
  | made {t : Session} {u : Store} (before : Reached i s t) (keeps : t.store.Keeps u) :
      Reached i s ⟨u, t.record⟩
  | opened {t : Session} {q : Scope} {o : Origin} (before : Reached i s t)
      (holds : t.store.objects.Holds q) (origin : o.From q) :
      Reached i s ⟨o.opened t.store.objects, t.record⟩

variable {i : Interpreter} {h : Objects} {p q s₀ : Scope} {s t : Session}

theorem reached_apart (hreg : i.registry.Local) (ha : s.Apart p h s₀) (hr : i.Reached s t) :
    ∃ s', t.Apart p h s' := by
  induction hr with
  | first => exact ⟨s₀, ha⟩
  | ran _ holds within run ih =>
    obtain ⟨s₁, ha₁⟩ := ih
    obtain ⟨s₂, hl₂, hw₂⟩ := run_live hreg ha₁.live holds within run
    exact ⟨s₂, ha₁.widened hl₂ hw₂⟩
  | made _ keeps ih =>
    obtain ⟨s₁, ha₁⟩ := ih
    exact ⟨s₁, ha₁.kept keeps⟩
  | opened _ holds origin ih =>
    obtain ⟨s₁, ha₁⟩ := ih
    exact ha₁.opened holds origin

theorem opened_apart {g : Objects} {o : Origin} (hs : Objects.SameOn p h g) (ho : o.From p)
    {ρ : Renaming} {s : Scope} {u : Store} (hl : Linked ρ s (o.opened g) u)
    (hg : Grows .same (Origin.marksOf p) ⟨g, .null, #[]⟩ ρ s (o.opened g)) :
    Session.Apart p h s ⟨o.opened g, .empty⟩ where
  live := ⟨hl.toHolds, hl.root, fun _ he => (nomatch he), within_nil s⟩
  same := hs.kept (Origin.kept_opened hs.holds ho)
  disjoint a hp ha :=
    absurd (hs.holds.size a hp) (Nat.not_lt_of_le (hg.fresh a ha fun hn => hn.elim))
  marks _ hm := hg.le.2 hm

theorem opened_twins {g g' : Objects} (hs : Objects.SameOn p h g) (hs' : Objects.SameOn p h g')
    {o : Origin} (ho : o.From p) : ∃ ρ s s',
      Session.Twins .same p p h h ρ s s' ⟨o.opened g, .empty⟩ ⟨o.opened g', .empty⟩ ∧
        Widens (Origin.marksOf p) ⟨g, .null, #[]⟩ s (o.opened g) := by
  obtain ⟨ρ, s, hl, hg⟩ := Origin.opened_linked (hs.mirrors hs') ho
  obtain ⟨ρ', s', hl', hg'⟩ := Origin.opened_linked (hs'.mirrors hs') ho
  refine ⟨ρ, s, s', ?_, hg.toWidens⟩
  exact
    { linked := ⟨hl, fun _ he => (nomatch he), within_nil s, rfl⟩
      twinned := .same p h
      apart := opened_apart hs ho hl hg
      apart' := opened_apart hs' ho hl' hg'
      marks := fun m hm => hg.agrees.mark m hm }

theorem run_opened_follows (hreg : i.registry.Local) {g g' : Objects}
    (hs : Objects.SameOn p h g) (hs' : Objects.SameOn p h g') {o : Origin} (ho : o.From p)
    {submitted : Submission} {entry : Value} (hsub : Within p submitted) (hentry : Within p entry)
    (turns : Nat) (r r' : Record) :
    Comes (i.run turns entry submitted ⟨o.opened g, r⟩)
      (i.run turns entry submitted ⟨o.opened g', r'⟩) := by
  obtain ⟨ρ, s, s', ht, -⟩ := opened_twins hs hs' ho
  have hsub' : Within p (rename .same submitted) := by rwa [rename_same]
  have hfollows : Comes (i.run turns entry submitted ⟨o.opened g, r⟩)
      (i.run turns (rename .same entry) (rename .same submitted) ⟨o.opened g', r'⟩) :=
    run_follows hreg turns ht hsub hsub' hentry
  rwa [rename_same, rename_same] at hfollows

/-- At every point of a run, nothing that is live or handed to a behavior leads to one
of the cells, and they are as in `h`. -/
def Isolating (i : Interpreter) (cells : Set Nat) (h : Objects) (entry : Value)
    (submitted : Submission) (t : Session) : Prop :=
  ∀ nodes u es c w, (start entry submitted).run t = (.ok nodes, u) →
    Course i nodes entry u es c w → w.Isolates cells h ∧
      ∀ v x, (i.approach nodes es.length c).run w = (.ok v, x) → x.Isolates cells h ∧
        (∀ a ∈ x.store.objects.reach v.call.parameters, a ∉ cells) ∧
        ∀ a ∈ x.store.objects.reach v.call.flow, a ∉ cells

theorem isolating_of_apart (hreg : i.registry.Local) (ha : t.Apart p h s₀)
    (hq : t.store.objects.Holds q) {submitted : Submission} (hs : Within q submitted)
    (entry : Value) : i.Isolating p.cells h entry submitted t := by
  intro nodes u es c w hstart hcourse
  obtain ⟨s₁, hl₁, hw₁, hb₁, hc₁⟩ := start_live ha.live hq hs hstart
  have ha₁ := ha.widened hl₁ hw₁
  obtain ⟨s₂, hl₂, hw₂, hc₂⟩ := course_live hreg hl₁ hb₁ hc₁ hcourse
  have ha₂ := ha₁.widened hl₂ hw₂
  refine ⟨ha₂.isolates, fun v x hv => ?_⟩
  obtain ⟨s₃, hl₃, hw₃, hv₃⟩ := approach_live hl₂ (hb₁.widened hw₂ hl₂.holds) hc₂ hv
  have ha₃ := ha₂.widened hl₃ hw₃
  exact ⟨ha₃.isolates, ha₃.not_reached hv₃.1, ha₃.not_reached hv₃.2⟩

/-- An interpreter with local behaviors begins with a document that has no cell in
common with what the caller holds on to. Whatever it has run since, and however that
ended: the cells of the caller are as they were, and neither the document nor anything
recorded or handed to a behavior leads to one of them. A graph of the caller does the
same on a document opened now, whatever is recorded, as on one opened at the beginning. -/
theorem run_isolated {caller document : Scope} (hlocal : i.registry.Local)
    (hnew : s.record = .empty) (hcaller : s.store.objects.Holds caller)
    (hdocument : s.store.objects.Holds document) (hroot : Within document s.store.root)
    (hapart : ∀ a ∈ caller.cells, a ∉ document.cells) (ht : i.Reached s t) :
    t.store.objects.Holds caller ∧ t.Isolates caller.cells s.store.objects ∧
    (∀ q submitted entry, t.store.objects.Holds q → Within q submitted →
      i.Isolating caller.cells s.store.objects entry submitted t) ∧
    ∀ (o : Origin) submitted entry turns, o.From caller → Within caller submitted →
      Within caller entry →
      Comes (i.run turns entry submitted ⟨o.opened s.store.objects, .empty⟩)
        (i.run turns entry submitted ⟨o.opened t.store.objects, t.record⟩) := by
  have hsame : Objects.SameOn caller s.store.objects s.store.objects := ⟨hcaller, fun _ _ => rfl⟩
  have hlive : s.Live document :=
    { holds := hdocument
      root := hroot
      nodes := by rw [hnew]; exact fun _ he => nomatch he
      record := by rw [hnew]; exact within_nil document }
  have ha : s.Apart caller s.store.objects (document.withMarks caller) :=
    ⟨hlive.withMarks hcaller, hsame, hapart, fun _ hm => .inr hm⟩
  obtain ⟨s₁, ha₁⟩ := reached_apart hlocal ha ht
  refine ⟨ha₁.same.holds, ha₁.isolates, fun q submitted entry hq hs =>
    isolating_of_apart hlocal ha₁ hq hs entry, fun o submitted entry turns ho hs he => ?_⟩
  exact run_opened_follows hlocal hsame ha₁.same ho hs he turns _ _

def listing : Session where
  store :=
    { objects := ⟨#[.array [], .object [("value", .ref 0)],
        .object [("type", .text "math.const"), ("parameters", .ref 1)], .array [.ref 2],
        .object [("a", .int 1)], .object [("a", .int 1)]], 1⟩
      root := .ref 5
      log := #[] }
  record := .empty

def ofListing : Scope := ⟨{a | a < 5}, {0}⟩

theorem holds_listing : listing.store.objects.Holds ofListing where
  size _ ha := Nat.lt_succ_of_lt ha
  within a ha := by
    have ha : a = 0 ∨ a = 1 ∨ a = 2 ∨ a = 3 ∨ a = 4 := by
      have : a < 5 := ha
      omega
    rcases ha with rfl | rfl | rfl | rfl | rfl <;>
      simp [listing, Objects.cell, ofListing, within_of_not_float]
  mark := by
    rintro m rfl
    exact Nat.one_pos
  zero := rfl

theorem holds_listed : listing.store.objects.Holds ⟨{5}, {0}⟩ where
  size := by
    rintro a rfl
    decide
  within := by
    rintro a rfl
    simp [listing, Objects.cell, within_of_not_float]
  mark := by
    rintro m rfl
    exact Nat.one_pos
  zero := rfl

def listed : Session := (builtIn.run 1 (.int 0) (.value (.ref 3)) listing).2

theorem run_isolated_listing :
    listed.record.size = 1 ∧ listed.Isolates {a | a < 5} listing.store.objects ∧
      ∀ turns, Comes
        (builtIn.run turns (.int 0) (.value (.ref 3))
          ⟨(Origin.value (.ref 4)).opened listing.store.objects, .empty⟩)
        (builtIn.run turns (.int 0) (.value (.ref 3))
          ⟨(Origin.value (.ref 4)).opened listed.store.objects, listed.record⟩) := by
  have hgraph : Within ofListing (Submission.value (.ref 3)) := show (3 : Nat) < 5 by decide
  have horigin : (Origin.value (.ref 4)).From ofListing := show (4 : Nat) < 5 by decide
  have hapart : ∀ a ∈ ofListing.cells, a ∉ ({5} : Set Nat) := by
    intro a ha hs
    obtain rfl : a = 5 := hs
    exact Nat.lt_irrefl 5 ha
  have hrun : builtIn.run 1 (.int 0) (.value (.ref 3)) listing =
      ((builtIn.run 1 (.int 0) (.value (.ref 3)) listing).1, listed) := by rw [listed]
  have hr : builtIn.Reached listing listed := .ran .first holds_listing hgraph hrun
  obtain ⟨-, hi, -, hagain⟩ := run_isolated Registry.local_builtIn rfl holds_listing holds_listed
    rfl hapart hr
  exact ⟨by decide +kernel, hi, fun turns =>
    hagain _ _ _ turns horigin hgraph (within_int ofListing 0)⟩

end Interpreter
end NodeWalk
