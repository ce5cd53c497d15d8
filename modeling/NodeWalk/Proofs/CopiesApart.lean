import Mathlib.Logic.Relation
import NodeWalk.Proofs.DocumentTree
import NodeWalk.Proofs.FaithfulCopies
import NodeWalk.Proofs.GroundedWrite
import NodeWalk.Proofs.SavedDocument

set_option autoImplicit false

/-!
# Copies stay apart

A store makes a copy of the document it is opened with, and hands out copies of the one it has.
What the caller holds then has no container in common with the document, and that stays so
however the store is written with values that do not lead to what the caller holds, and however
the caller changes what it holds. So no write to the store is seen in what the caller holds, and
no change to that is seen in the document.
-/
namespace NodeWalk

namespace Objects

variable {h g k : Objects} {v w x : Value} {a c : Addr}

def Apart (h : Objects) (x y : Value) : Prop := ∀ a ∈ h.reach x, a ∉ h.reach y

theorem Apart.symm (hxy : h.Apart v w) : h.Apart w v := fun a ha hav => hxy a hav ha

theorem beside_put (h : Objects) (a : Addr) (c : Cell) : h.Beside (h.put a c) a :=
  fun _ _ hne => cell_put_of_ne hne c h

/-- Behind a change of one container a value leads to what it led to, and to what its new
content led to. -/
theorem reach_put {c : Cell} (ha : a < h.cells.size) (x : Value) :
    ∀ b ∈ (h.put a c).reach x, b ∈ h.reach x ∨ ∃ y ∈ c.values, b ∈ h.reach y := by
  have hclosed : (h.put a c).Closed {b | b ∈ h.reach x ∨ ∃ y ∈ c.values, b ∈ h.reach y} := by
    intro b hb d hd
    by_cases hab : a = b
    · subst hab
      rw [refsOf, cell_put_self ha] at hd
      obtain ⟨y, hy, hdy⟩ := List.mem_flatMap.1 hd
      exact .inr ⟨y, hy, mem_reach_of_mem_refs hdy⟩
    · rw [refsOf, cell_put_of_ne hab] at hd
      obtain hb | ⟨y, hy, hb⟩ := hb
      · exact .inl (closed_reach h x b hb d hd)
      · exact .inr ⟨y, hy, closed_reach h y b hb d hd⟩
  exact reach_subset hclosed fun b hb => .inl (mem_reach_of_mem_refs hb)

end Objects

namespace Document.Site

variable {p : Site} {h : Objects} {v w : Value}

/-- Behind a write a value leads to what it led to, to what was written, and to new objects. -/
theorem reach_around (hv : h.Has v) (hw : h.Has w) :
    ∀ b ∈ (p.write w h).reach v, b ∈ h.reach v ∨ p.Ahead w h h.cells.size b := by
  have hclosed : (p.write w h).Closed {b | b ∈ h.reach v ∨ p.Ahead w h h.cells.size b} := by
    have hold {b d : Addr} (hb : b ∈ h.reach v ∨ b ∈ h.reach w)
        (hd : d ∈ (p.write w h).refsOf b) : d ∈ h.reach v ∨ p.Ahead w h h.cells.size d := by
      have hlt : b < h.cells.size := hb.elim (hv b) (hw b)
      obtain ⟨y, hy, hdy⟩ := List.mem_flatMap.1 hd
      have hrefs (hy : y ∈ (h.cell b).values) :
          d ∈ h.reach v ∨ p.Ahead w h h.cells.size d := by
        have hd : d ∈ h.refsOf b := List.mem_flatMap.2 ⟨y, hy, hdy⟩
        exact hb.imp (fun hb => Objects.closed_reach h v b hb d hd)
          fun hb => .inl (Objects.closed_reach h w b hb d hd)
      by_cases hne : p.cell = b
      · subst hne
        obtain hy | rfl := mem_values_written hlt hy
        · exact hrefs hy
        · exact .inr (p.ahead_of_value w h d hdy)
      · rw [cell_write_of_ne hne hlt] at hy
        exact hrefs hy
    rintro b (hb | hb | ⟨hle, -⟩) d hd
    · exact hold (.inl hb) hd
    · exact hold (.inr hb) hd
    · obtain ⟨y, hy, hdy⟩ := List.mem_flatMap.1 hd
      obtain rfl | ⟨rfl, hlt⟩ := mem_values_made hle hy
      · exact .inr (.inl (Objects.mem_reach_of_mem_refs hdy))
      · obtain rfl := List.mem_singleton.1 hdy
        exact .inr (.inr ⟨Nat.le_succ_of_le hle, hlt⟩)
  exact Objects.reach_subset hclosed fun b hb => .inl (Objects.mem_reach_of_mem_refs hb)

theorem has_write (hv : h.Has v) (hw : h.Has w) : (p.write w h).Has v := by
  intro b hb
  have hsize := p.size_write w h
  obtain hb | hb | ⟨-, hlt⟩ := reach_around hv hw b hb
  · exact Nat.lt_of_lt_of_le (hv b hb) hsize
  · exact Nat.lt_of_lt_of_le (hw b hb) hsize
  · exact hlt

end Document.Site

/-- A store, and the values that its caller holds: the document it was opened with and the
copies that it gave out. -/
structure Dealing where
  store : Store
  held : List Value

namespace Dealing

variable {h : Objects} {v : Value} {d e f : Dealing} {x : Value}

abbrev objects (d : Dealing) : Objects := d.store.objects

abbrev root (d : Dealing) : Value := d.store.root

def opened (h : Objects) (v : Value) (log : Array Notice) : Dealing :=
  ⟨⟨(Document.adopt v h).2, (Document.adopt v h).1, log⟩, [v]⟩

inductive Makes : Dealing → Dealing → Prop where
  | kept {s : Store} {held : List Value} {g : Objects} (kept : s.objects.Kept g) :
    Makes ⟨s, held⟩ ⟨s.withObjects g, held⟩

/-- What the store does: it is written, however that ends, with a value that has no container in
common with what the caller holds, or it gives out a copy. -/
inductive Stores : Dealing → Dealing → Prop where
  | made {d e : Dealing} (made : Makes d e) : Stores d e
  | written {s t : Store} {held : List Value} {path w : Value} {r : Except Fault Unit}
    (has : s.objects.Has w) (apart : ∀ x ∈ held, s.objects.Apart w x)
    (set : (Document.set path w).run s = (r, t)) : Stores ⟨s, held⟩ ⟨t, held⟩
  | copied {s t : Store} {held : List Value} {x : Value}
    (copy : Document.copyOut.run s = (.ok x, t)) : Stores ⟨s, held⟩ ⟨t, x :: held⟩

/-- What the caller does: it gives a container that it holds another content, which does not
lead into the document. -/
inductive Changes : Dealing → Dealing → Prop where
  | made {d e : Dealing} (made : Makes d e) : Changes d e
  | changed {s : Store} {held : List Value} {x : Value} {a : Addr} {c : Cell}
    (holds : x ∈ held) (inside : a ∈ s.objects.reach x)
    (apart : ∀ y ∈ c.values, s.objects.Has y ∧ s.objects.Apart y s.root) :
    Changes ⟨s, held⟩ ⟨s.withObjects (s.objects.put a c), held⟩

def Step (d e : Dealing) : Prop := Stores d e ∨ Changes d e

structure Separate (d : Dealing) : Prop where
  root : d.objects.Has d.root
  held : ∀ x ∈ d.held, d.objects.Has x
  apart : ∀ x ∈ d.held, d.objects.Apart x d.root

theorem Separate.makes (hd : d.Separate) (hstep : Makes d e) : e.Separate ∧ e.held = d.held ∧
    e.root = d.root ∧ d.objects.Unchanged e.objects d.root ∧
      ∀ x ∈ d.held, d.objects.Unchanged e.objects x := by
  cases hstep with
  | @kept s held g kept =>
    exact ⟨⟨hd.root.kept kept, fun x hx => (hd.held x hx).kept kept, fun x hx a ha haroot =>
        hd.apart x hx a (((hd.held x hx).unchanged kept).mem_reach ha)
          ((hd.root.unchanged kept).mem_reach haroot)⟩,
      rfl, rfl, hd.root.unchanged kept, fun x hx => (hd.held x hx).unchanged kept⟩

theorem run_copyOut (s : Store) : Document.copyOut.run s =
    (.ok (s.objects.copy s.root).1, s.withObjects (s.objects.copy s.root).2) := rfl

theorem Separate.stores (hd : d.Separate) (hstep : Stores d e) : e.Separate ∧
    ∀ x ∈ d.held, x ∈ e.held ∧ d.objects.Unchanged e.objects x := by
  cases hstep with
  | made made =>
    obtain ⟨he, hheld, -, -, hsame⟩ := hd.makes made
    exact ⟨he, fun x hx => ⟨hheld ▸ hx, hsame x hx⟩⟩
  | @written s t held path w r has apart set =>
    have hsite {text last : Text} {tokens : List Text} {p : Document.Site}
        (place : Document.site s.objects text last tokens s.root = .ok p) (log : Array Notice) :
        Separate ⟨⟨p.write w s.objects, s.root, log⟩, held⟩ ∧
          ∀ x ∈ held, s.objects.Unchanged (p.write w s.objects) x := by
      have hcell := (Document.leads_of_site place).mem_reach
      have hsame : ∀ x ∈ held, s.objects.Unchanged (p.write w s.objects) x := fun x hx =>
        (hd.held x hx).unchanged_beside (p.beside_write w s.objects) fun hc =>
          hd.apart x hx p.cell hc hcell
      refine ⟨⟨Document.Site.has_write hd.root has, fun x hx =>
        Document.Site.has_write (hd.held x hx) has, fun x hx a ha haroot => ?_⟩, hsame⟩
      have ha := (hsame x hx).mem_reach ha
      obtain hroot | hw | ⟨hle, -⟩ := Document.Site.reach_around hd.root has a haroot
      · exact hd.apart x hx a ha hroot
      · exact apart x hx a hw ha
      · exact absurd (hd.held x hx a ha) (Nat.not_lt_of_le hle)
    cases Document.outcome_of_run_set set with
    | refused => exact ⟨hd, fun x hx => ⟨hx, .refl _ _⟩⟩
    | replaced =>
      exact ⟨⟨has, hd.held, fun x hx => (apart x hx).symm⟩, fun x hx => ⟨hx, .refl _ _⟩⟩
    | stored _ _ place _ =>
      obtain ⟨hsep, hsame⟩ := hsite place _
      exact ⟨hsep, fun x hx => ⟨hx, hsame x hx⟩⟩
    | unreported _ _ place _ =>
      obtain ⟨hsep, hsame⟩ := hsite place _
      exact ⟨hsep, fun x hx => ⟨hx, hsame x hx⟩⟩
  | @copied s t held x copy =>
    cases (run_copyOut s).symm.trans copy
    have hkept := Objects.kept_copy s.root s.objects
    obtain ⟨hsep, -, -, -, hsame⟩ := hd.makes (.kept hkept)
    have hcopy := Objects.copies_copy hd.root
    refine ⟨⟨hsep.root, ?_, ?_⟩, fun y hy => ⟨List.mem_cons_of_mem _ hy, hsame y hy⟩⟩
    · exact List.forall_mem_cons.2 ⟨Objects.has_copy s.objects s.root, hsep.held⟩
    · exact List.forall_mem_cons.2 ⟨hcopy.apart, hsep.apart⟩

theorem Separate.changes (hd : d.Separate) (hstep : Changes d e) : e.Separate ∧
    e.root = d.root ∧ d.objects.Unchanged e.objects d.root := by
  cases hstep with
  | made made =>
    obtain ⟨he, -, hroot, hsame, -⟩ := hd.makes made
    exact ⟨he, hroot, hsame⟩
  | @changed s held x a c holds inside apart =>
    have hlt := hd.held x holds a inside
    have hsame : s.objects.Unchanged (s.objects.put a c) s.root :=
      hd.root.unchanged_beside (Objects.beside_put s.objects a c) (hd.apart x holds a inside)
    have hreach : ∀ y ∈ held, ∀ b ∈ (s.objects.put a c).reach y,
        b < s.objects.cells.size ∧ b ∉ s.objects.reach s.root := by
      intro y hy b hb
      obtain hb | ⟨z, hz, hb⟩ := Objects.reach_put hlt y b hb
      · exact ⟨hd.held y hy b hb, hd.apart y hy b hb⟩
      · exact ⟨(apart z hz).1 b hb, (apart z hz).2 b hb⟩
    refine ⟨⟨fun b hb => ?_, fun y hy b hb => ?_, fun y hy b hb hbroot => ?_⟩, rfl, hsame⟩
    · exact Nat.lt_of_lt_of_eq (hd.root b (hsame.mem_reach hb))
        (Objects.size_put a c s.objects).symm
    · exact Nat.lt_of_lt_of_eq (hreach y hy b hb).1 (Objects.size_put a c s.objects).symm
    · exact (hreach y hy b hb).2 (hsame.mem_reach hbroot)

open Relation (ReflTransGen)

theorem separate_opened (hv : h.Has v) (log : Array Notice) : (opened h v log).Separate := by
  by_cases hnull : v = .null
  · subst hnull
    refine ⟨(Objects.grounded_newObject (List.forall_mem_nil _)).has, ?_, ?_⟩
    · exact List.forall_mem_singleton.2 (Objects.grounded_scalar _ _).has
    · refine List.forall_mem_singleton.2 fun a ha => ?_
      exact absurd ha (Objects.not_mem_reach_scalar _ _ a)
  · have hcopy := Objects.copies_copy hv
    have hopened : opened h v log = ⟨⟨(h.copy v).2, (h.copy v).1, log⟩, [v]⟩ := by
      rw [opened, Document.adopt_of_ne_null hnull]
    rw [hopened]
    refine ⟨Objects.has_copy h v, List.forall_mem_singleton.2 (hv.kept hcopy.kept), ?_⟩
    exact List.forall_mem_singleton.2 fun a ha har => hcopy.apart a har ha

theorem Separate.step (hd : d.Separate) (hstep : Step d e) : e.Separate :=
  hstep.elim (fun hs => (hd.stores hs).1) fun hc => (hd.changes hc).1

theorem Separate.run (hd : d.Separate) (hrun : ReflTransGen Step d e) : e.Separate := by
  induction hrun with
  | refl => exact hd
  | tail _ hstep ih => exact ih.step hstep

theorem Separate.run_stores (hd : d.Separate) (hrun : ReflTransGen Stores d e) :
    e.Separate ∧ ∀ x ∈ d.held, x ∈ e.held ∧ d.objects.Unchanged e.objects x := by
  induction hrun with
  | refl => exact ⟨hd, fun x hx => ⟨hx, .refl _ _⟩⟩
  | tail _ hstep ih =>
    obtain ⟨hsep, hsame⟩ := ih
    obtain ⟨hsep', hsame'⟩ := hsep.stores hstep
    refine ⟨hsep', fun x hx => ?_⟩
    obtain ⟨hmem, hx⟩ := hsame x hx
    obtain ⟨hmem', hx'⟩ := hsame' x hmem
    exact ⟨hmem', hx.trans hx'⟩

theorem Separate.run_changes (hd : d.Separate) (hrun : ReflTransGen Changes d e) :
    e.Separate ∧ e.root = d.root ∧ d.objects.Unchanged e.objects d.root := by
  induction hrun with
  | refl => exact ⟨hd, rfl, .refl _ _⟩
  | tail _ hstep ih =>
    obtain ⟨hsep, hroot, hsame⟩ := ih
    obtain ⟨hsep', hroot', hsame'⟩ := hsep.changes hstep
    rw [hroot] at hsame'
    exact ⟨hsep', hroot'.trans hroot, hsame.trans hsame'⟩

/-- A store holds a faithful copy of the document it was opened with, or an empty object for
null, and at any time it gives out a faithful copy. Neither the store nor its caller ever
changes what the other has. -/
theorem copies_separate (hv : h.Has v) (log : Array Notice) :
    (v ≠ .null → Objects.Copies h v (Document.adopt v h).2 (Document.adopt v h).1) ∧
    (v = .null →
      (Document.adopt v h).2.find? (Document.adopt v h).1 = some (.object [])) ∧
    ∀ d, ReflTransGen Step (opened h v log) d →
      (∃ x t, Document.copyOut.run d.store = (.ok x, t) ∧ t.root = d.root ∧
        Objects.Copies d.objects d.root t.objects x) ∧
      (∀ e, ReflTransGen Stores d e → ∀ x ∈ d.held, d.objects.Unchanged e.objects x) ∧
      (∀ e, ReflTransGen Changes d e →
        e.root = d.root ∧ d.objects.Unchanged e.objects d.root) ∧
      ∀ x ∈ d.held, ∀ a ∈ d.objects.reach x, ∀ c,
        d.objects.Unchanged (d.objects.put a c) d.root := by
  refine ⟨fun hnull => ?_, ?_, fun d hrun => ?_⟩
  · rw [Document.adopt_of_ne_null hnull]
    exact Objects.copies_copy hv
  · rintro rfl
    rw [Document.adopt, Objects.newObject_eq]
    exact congrArg some (Objects.cell_append_self h _)
  · have hd := (separate_opened hv log).run hrun
    refine ⟨⟨_, _, run_copyOut d.store, rfl, Objects.copies_copy hd.root⟩, ?_, ?_, ?_⟩
    · exact fun e he x hx => ((hd.run_stores he).2 x hx).2
    · exact fun e he => (hd.run_changes he).2
    · exact fun x hx a ha c => hd.root.unchanged_beside (Objects.beside_put d.objects a c)
        (hd.apart x hx a ha)

/-- The document contains itself and has one array in two places. The copy of the array is
written, and the array stays as it is. -/
theorem copies_separate_looped :
    let h : Objects := ⟨#[.object [("me", .ref 0), ("a", .ref 1), ("b", .ref 1)],
      .array [.int 1]], 1⟩
    let d := opened h (.ref 0) #[]
    h.Has (.ref 0) ∧ Objects.Copies h (.ref 0) d.objects d.root ∧
      ∃ t, (Document.set (.text "/a/0") (.int 2)).run d.store = (.ok (), t) ∧
        d.objects.Unchanged t.objects (.ref 0) := by
  intro h d
  have hv : h.Has (.ref 0) := by decide +kernel
  obtain ⟨t, hset⟩ : ∃ t, (Document.set (.text "/a/0") (.int 2)).run d.store = (.ok (), t) :=
    ⟨_, run_eq_of_result (ok_of_toOption (by decide +kernel))⟩
  obtain ⟨hcopy, -, hruns⟩ := copies_separate hv #[]
  obtain ⟨-, hstores, -, -⟩ := hruns d .refl
  have hwritten : Stores d ⟨t, d.held⟩ := by
    refine .written (Objects.grounded_scalar _ _).has (fun x _ a ha => ?_) hset
    exact absurd ha (Objects.not_mem_reach_scalar _ _ a)
  exact ⟨hv, hcopy nofun, t, hset, hstores _ (.single hwritten) _ (List.mem_singleton.2 rfl)⟩

end Dealing
end NodeWalk
