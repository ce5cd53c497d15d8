import NodeWalk.Proofs.Course
import NodeWalk.Proofs.FollowedSession

set_option autoImplicit false

/-!
# What is live in a session

The live scope of a session has the document, what was recorded, and all that these
lead to. A session follows itself, so what holds of two mirrored runs holds of one: a
run takes new cells into the live scope, and it changes none outside it. The graph
may overlap the live scope or lie apart from it.
-/
namespace NodeWalk

namespace Scope

def join (s p : Scope) : Scope := ⟨s.cells ∪ p.cells, s.marks ∪ p.marks⟩

variable {s p q : Scope}

theorem le_join_left (s p : Scope) : s ≤ s.join p := ⟨fun _ h => .inl h, fun _ h => .inl h⟩

theorem le_join_right (s p : Scope) : p ≤ s.join p := ⟨fun _ h => .inr h, fun _ h => .inr h⟩

theorem join_le_join (h : p ≤ q) (s : Scope) : s.join p ≤ s.join q :=
  ⟨fun _ ha => ha.imp id (h.1 ·), fun _ hm => hm.imp id (h.2 ·)⟩

def withMarks (s p : Scope) : Scope := ⟨s.cells, s.marks ∪ p.marks⟩

theorem le_withMarks (s p : Scope) : s ≤ s.withMarks p := ⟨fun _ h => h, fun _ h => .inl h⟩

end Scope

namespace Objects.Holds

variable {h : Objects} {s p : Scope}

theorem join (hs : h.Holds s) (hp : h.Holds p) : h.Holds (s.join p) where
  size a ha := ha.elim (hs.size a) (hp.size a)
  within a ha := ha.elim (fun ha => Carries.mono (s.le_join_left p) (hs.within a ha))
    fun ha => Carries.mono (s.le_join_right p) (hp.within a ha)
  mark m hm := hm.elim (hs.mark m) (hp.mark m)
  zero := .inl hs.zero

theorem withMarks (hs : h.Holds s) (hp : h.Holds p) : h.Holds (s.withMarks p) where
  size := hs.size
  within a ha := Carries.mono (s.le_withMarks p) (hs.within a ha)
  mark m hm := hm.elim (hs.mark m) (hp.mark m)
  zero := .inl hs.zero

theorem widened {s' q : Scope} {t u : Store} (hq : t.objects.Holds (q.join s))
    (hw : Widens s t s' u) (hu : u.objects.Holds s') : u.objects.Holds (q.join s') where
  size a ha := ha.elim (fun ha => Nat.lt_of_lt_of_le (hq.size a (.inl ha)) hw.size) (hu.size a)
  within a ha := by
    by_cases hs : a ∈ s'.cells
    · exact Carries.mono (q.le_join_right s') (hu.within a hs)
    · have ha : a ∈ (q.join s).cells := .inl (ha.resolve_right hs)
      rw [hw.frame a (hq.size a ha) fun h => hs (hw.le.1 h)]
      exact Carries.mono (Scope.join_le_join hw.le q) (hq.within a ha)
  mark m hm := hm.elim (fun hm => Nat.lt_of_lt_of_le (hq.mark m (.inl hm)) hw.mark) (hu.mark m)
  zero := .inr hu.zero

theorem apart {s' q : Scope} {t u : Store} (hq : t.objects.Holds q) (hw : Widens s t s' u)
    (hd : ∀ a ∈ q.cells, a ∉ s.cells) : u.objects.Holds q where
  size a ha := Nat.lt_of_lt_of_le (hq.size a ha) hw.size
  within a ha := by
    rw [hw.frame a (hq.size a ha) (hd a ha)]
    exact hq.within a ha
  mark m hm := Nat.lt_of_lt_of_le (hq.mark m hm) hw.mark
  zero := hq.zero

end Objects.Holds

theorem Widens.disjoint {s s' q : Scope} {t u : Store} (hw : Widens s t s' u)
    (hq : t.objects.Holds q) (hd : ∀ a ∈ q.cells, a ∉ s.cells) : ∀ a ∈ q.cells, a ∉ s'.cells := by
  intro a ha hs
  have hle := hw.fresh a hs (hd a ha)
  exact absurd (hq.size a ha) (Nat.not_lt_of_le hle)

structure Session.Live (s : Scope) (t : Session) : Prop where
  holds : t.store.objects.Holds s
  root : Within s t.store.root
  nodes : Record.OfNodes t.record.entries
  record : Within s t.record

namespace Session

variable {ρ : Renaming} {s p : Scope} {t t' : Session}

theorem Linked.live (hl : Linked ρ s t t') : Live s t := ⟨hl.toHolds, hl.root, hl.nodes, hl.record⟩

namespace Live

theorem linked (hl : Live s t) : Linked .same s t t where
  toMirrors := hl.holds.mirrors
  root := hl.root
  imageRoot := (Carries.same _).symm
  nodes := hl.nodes
  record := hl.record
  imageRecord := (Carries.same _).symm

theorem emptied (hl : Live s t) {u : Store} (hk : t.store.Keeps u) : Live s ⟨u, .empty⟩ where
  holds := hl.holds.kept hk.toKept
  root := by rw [hk.root]; exact hl.root
  nodes _ he := nomatch he
  record := within_nil s

theorem withMarks (hl : Live s t) (hp : t.store.objects.Holds p) : Live (s.withMarks p) t where
  holds := hl.holds.withMarks hp
  root := Carries.mono (s.le_withMarks p) hl.root
  nodes := hl.nodes
  record := Carries.mono (s.le_withMarks p) hl.record

end Live
end Session

theorem Objects.Holds.source {h : Objects} {s q : Scope} (hq : h.Holds q) (hm : q.marks ⊆ s.marks) :
    Source .same q .same s h h :=
  ⟨hq.mirrors, hm, fun _ _ => rfl⟩

namespace Interpreter

open Node (Evaluation)

variable {i : Interpreter} {nodes : List Node} {steps : Nat} {current entry c : Value}
  {s q : Scope} {t u : Session} {es : List Evaluation}

theorem rename_same {α : Type} [Carries α] (a : α) : rename .same a = a := Carries.same a

structure Beside (q s : Scope) (nodes : List Node) (h : Objects) : Prop where
  holds : h.Holds (q.join s)
  marks : q.marks ⊆ s.marks
  nodes : Within q nodes

theorem Beside.widened {s' : Scope} {t u : Store} (hb : Beside q s nodes t.objects)
    (hw : Widens s t s' u) (hu : u.objects.Holds s') : Beside q s' nodes u.objects :=
  ⟨hb.holds.widened hw hu, fun _ hm => hw.le.2 (hb.marks hm), hb.nodes⟩

theorem Beside.source {h : Objects} (hb : Beside q s nodes h) :
    Objects.Source .same (q.join s) .same s h h :=
  hb.holds.source fun _ hm => hm.elim (hb.marks ·) id

theorem approach_live (hl : t.Live s) (hb : Beside q s nodes t.store.objects)
    (hc : Within s current) {v : Node.Invocation}
    (h : (i.approach nodes steps current).run t = (.ok v, u)) :
    ∃ s', u.Live s' ∧ Widens s t.store s' u.store ∧ Within s' v := by
  have hn : Within (q.join s) nodes := Carries.mono (q.le_join_left s) hb.nodes
  obtain ⟨ρ, s', hl', hg, hr⟩ := approach_follows hl.linked hb.source i steps hn hc
  rw [h] at hl' hg hr
  rw [rename_same, rename_same] at hl' hr
  rw [h] at hl' hr
  exact ⟨s', hl'.live, hg.toWidens, hr.1⟩

theorem turn_live (hreg : i.registry.Local) (hl : t.Live s)
    (hb : Beside q s nodes t.store.objects) (hc : Within s current) {r : Except Fault Evaluation}
    (h : (i.turn nodes steps current).run t = (r, u)) :
    ∃ s', u.Live s' ∧ Widens s t.store s' u.store ∧ ∀ e, r = .ok e → Within s' e := by
  have hn : Within (q.join s) nodes := Carries.mono (q.le_join_left s) hb.nodes
  obtain ⟨ρ, s', hl', hg, hr⟩ := turn_follows hreg hl.linked hb.source steps hn hc
  rw [h] at hl' hg hr
  rw [rename_same, rename_same] at hl' hr
  rw [h] at hl' hr
  refine ⟨s', hl'.live, hg.toWidens, ?_⟩
  rintro e rfl
  exact hr.1

theorem course_live (hreg : i.registry.Local) (hl : t.Live s)
    (hb : Beside q s nodes t.store.objects) (hc : Within s entry)
    (h : Course i nodes entry t es c u) :
    ∃ s', u.Live s' ∧ Widens s t.store s' u.store ∧ Within s' c := by
  induction h with
  | start => exact ⟨s, hl, .refl s t.store, hc⟩
  | next before _ turn ih =>
    obtain ⟨s₁, hl₁, hw₁, hc₁⟩ := ih
    obtain ⟨s₂, hl₂, hw₂, he⟩ := turn_live hreg hl₁ (hb.widened hw₁ hl₁.holds) hc₁ turn
    exact ⟨s₂, hl₂, hw₁.trans hw₂, (he _ rfl).2⟩

variable {submitted : Submission} {turns : Nat} {e : Ending}

theorem within_parseAll {h : Objects} (hq : h.Holds q) (hs : Within q submitted)
    (hp : Node.parseAll h submitted = .ok nodes) : Within q nodes := by
  obtain ⟨ns, hns, -, hw⟩ | ⟨f, f', hns, -⟩ := (Node.parseAll_rename hq.mirrors hs).split
  · cases hns.symm.trans hp
    exact hw
  · cases hns.symm.trans hp

theorem start_live (hl : t.Live s) (hq : t.store.objects.Holds q) (hs : Within q submitted)
    (h : (start entry submitted).run t = (.ok nodes, u)) :
    ∃ s', u.Live s' ∧ Widens s t.store s' u.store ∧ Beside q s' nodes u.store.objects ∧
      Within s' entry := by
  obtain ⟨hp, ⟨p, hf⟩, text, rfl⟩ := start_ok h
  obtain ⟨rfl, -⟩ := find?_eq_some_iff.1 hf
  have hl' := hl.withMarks hq
  refine ⟨s.withMarks q, hl'.emptied ⟨.refl _, rfl⟩, ?_, ⟨hq.join hl'.holds, fun _ hm => .inr hm,
    within_parseAll hq hs hp⟩, within_int _ _⟩
  exact ⟨s.le_withMarks q, fun _ ha hn => absurd ha hn, fun _ _ _ => rfl, Nat.le_refl _,
    Nat.le_refl _⟩

theorem run_live (hreg : i.registry.Local) (hl : t.Live s) (hq : t.store.objects.Holds q)
    (hs : Within q submitted) (h : i.run turns entry submitted t = (e, u)) :
    ∃ s', u.Live s' ∧ Widens s t.store s' u.store := by
  cases hstart : (start entry submitted).run t with
  | mk started t₁ =>
    cases started with
    | error f =>
      rw [run_of_start_error hstart] at h
      cases h
      obtain ⟨hr, ho, hroot⟩ := start_error hstart
      have hk : t.store.Keeps u.store := ⟨ho ▸ .refl _, hroot⟩
      have hu : u = ⟨u.store, .empty⟩ := by rw [← hr]
      rw [hu]
      exact ⟨s, hl.emptied hk, .kept s hk.toKept⟩
    | ok nodes =>
      obtain ⟨s₁, hl₁, hw₁, hb₁, hc₁⟩ := start_live hl hq hs hstart
      obtain ⟨w, hstops, hcon⟩ := stops_of_run hstart h
      have hlive : ∃ s', w.Live s' ∧ Widens s₁ t₁.store s' w.store := by
        cases hstops with
        | halted course _ =>
          obtain ⟨s₂, hl₂, hw₂, -⟩ := course_live hreg hl₁ hb₁ hc₁ course
          exact ⟨s₂, hl₂, hw₂⟩
        | unfinished course _ _ =>
          obtain ⟨s₂, hl₂, hw₂, -⟩ := course_live hreg hl₁ hb₁ hc₁ course
          exact ⟨s₂, hl₂, hw₂⟩
        | failed course _ _ turn =>
          obtain ⟨s₂, hl₂, hw₂, hc₂⟩ := course_live hreg hl₁ hb₁ hc₁ course
          obtain ⟨s₃, hl₃, hw₃, -⟩ := turn_live hreg hl₂ (hb₁.widened hw₂ hl₂.holds) hc₂ turn
          exact ⟨s₃, hl₃, hw₂.trans hw₃⟩
      obtain ⟨s₂, hl₂, hw₂⟩ := hlive
      have hu : w.store.Keeps u.store ∧ u.record = w.record := by
        cases e <;> cases hcon <;> exact ⟨⟨.refl _, rfl⟩, rfl⟩
      refine ⟨s₂, ⟨hl₂.holds.kept hu.1.toKept, ?_, ?_, ?_⟩, (hw₁.trans hw₂).trans
        (.kept s₂ hu.1.toKept)⟩
      · rw [hu.1.root]
        exact hl₂.root
      · rw [hu.2]
        exact hl₂.nodes
      · rw [hu.2]
        exact hl₂.record

end Interpreter
end NodeWalk
