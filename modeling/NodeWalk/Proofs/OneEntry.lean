import NodeWalk.Proofs.KeepingBuiltIn
import NodeWalk.Proofs.PointerTokens
import NodeWalk.Proofs.WayToSite

set_option autoImplicit false

/-!
# One entry at a time

A write that is done replaces the document, or it changes one entry of one container that
was there before and adds the objects that were missing. The behavior `world.set` does
no more than that.
-/
namespace NodeWalk

/-- A key is added or given another value, an item is replaced, or an item is appended. -/
inductive Cell.OneEntry : Cell → Cell → Prop where
  | key (entries : Entries Value) (k : Text) (x : Value) :
    OneEntry (.object entries) (.object (Entries.set k x entries))
  | item {items : List Value} {i : Nat} (within : i < items.length) (x : Value) :
    OneEntry (.array items) (.array (items.set i x))
  | append (items : List Value) (x : Value) : OneEntry (.array items) (.array (items ++ [x]))

theorem Cell.oneEntry_write {c : Cell} {s : Slot} {path token : Text} {append : Bool}
    (hs : c.slot path token append = .ok s) (x : Value) : OneEntry c (c.write x s) := by
  cases c with
  | object entries =>
    cases hs
    exact .key entries token x
  | array items =>
    obtain ⟨i, rfl, -⟩ := slot_array_ok_iff.1 hs
    have hle := le_of_slot hs
    by_cases hi : i = items.length
    · rw [write, if_pos hi]
      exact .append items x
    · rw [write, if_neg hi]
      exact .item (Nat.lt_of_le_of_ne hle hi) x

/-- The document is the same value, and one entry of one container in it is written. -/
structure Store.WritesOneEntry (t u : Store) : Prop where
  root : u.root = t.root
  size : t.objects.cells.size ≤ u.objects.cells.size
  entry : ∃ a ∈ t.objects.reach t.root, a < t.objects.cells.size ∧
    Cell.OneEntry (t.objects.cell a) (u.objects.cell a) ∧ t.objects.Beside u.objects a

theorem Store.Keeps.writesOneEntry {s t u v : Store} (hst : s.Keeps t)
    (hhas : s.objects.Has s.root) (hw : t.WritesOneEntry u) (huv : u.Keeps v) :
    s.WritesOneEntry v where
  root := huv.root.trans (hw.root.trans hst.root)
  size := Nat.le_trans hst.size (Nat.le_trans hw.size huv.size)
  entry := by
    obtain ⟨a, ha, hlt, hentry, hbeside⟩ := hw.entry
    rw [hst.root, hhas.reach_kept hst.toKept] at ha
    have hs := hhas a ha
    refine ⟨a, ha, hs, ?_, fun b hb hne => ?_⟩
    · rw [huv.cell a (Nat.lt_of_lt_of_le hlt hw.size), ← hst.cell a hs]
      exact hentry
    · have hbt := Nat.lt_of_lt_of_le hb hst.size
      rw [huv.cell b (Nat.lt_of_lt_of_le hbt hw.size), hbeside b hbt hne, hst.cell b hb]

namespace Document

variable {s t : Store} {h : Objects} {path last : Text} {tokens : List Text} {v w : Value}

theorem Leads.oneEntry {p : Site} (hp : Leads h path last v tokens p) (x : Value) :
    Cell.OneEntry (h.cell p.cell) ((h.cell p.cell).write x p.slot) := by
  cases hp with
  | all _ slot => exact Cell.oneEntry_write slot x
  | @some way more c token entries _ cell _ =>
    dsimp only
    rw [cell]
    exact .key entries token x

theorem set_ok_cases {path : Value} (hhas : s.objects.Has s.root)
    (hset : (set path w).run s = (.ok (), t)) :
    (path = .text "" ∧ t.objects = s.objects ∧ t.root = w) ∨
      path ≠ .text "" ∧ s.WritesOneEntry t := by
  cases outcome_of_run_set hset with
  | replaced pointer whole =>
    subst pointer
    exact .inl ⟨congrArg Value.text (Pointer.tokens_eq_nil_iff.1 whole), rfl, rfl⟩
  | @stored text last _ tokens p pointer split place =>
    subst pointer
    have hleads := leads_of_site place
    have hlt := hhas p.cell hleads.mem_reach
    refine .inr ⟨?_, rfl, p.size_write w s.objects, p.cell, hleads.mem_reach, hlt, ?_,
      p.beside_write w s.objects⟩
    · intro hwhole
      cases hwhole
      have hnil := (Pointer.tokens_eq_nil_iff.2 rfl).symm.trans split
      simp at hnil
    · have hcell := Site.cell_write_self (w := w) hlt
      exact hcell ▸ hleads.oneEntry _

end Document

namespace Call

variable {c : Call} {key : Text} {v : Value} {s t : Store}

theorem required_ok (h : (c.required key).run s = (.ok v, t)) :
    t = s ∧ ∃ ps, s.objects.entries? c.parameters = some ps ∧ Entries.get? key ps = some v := by
  unfold required at h
  rw [run_bind_ok (StoreM.run_objects s)] at h
  cases hps : s.objects.entries? c.parameters with
  | none => rw [hps] at h; cases h
  | some ps =>
    rw [hps] at h
    dsimp only at h
    cases hv : Entries.get? key ps with
    | none => rw [hv] at h; cases h
    | some x =>
      rw [hv] at h
      cases h
      exact ⟨rfl, ps, rfl, hv⟩

theorem optional_ok (h : (c.optional key).run s = (.ok v, t)) :
    t = s ∧ ∀ ps, s.objects.entries? c.parameters = some ps →
      v = (Entries.get? key ps).getD .null := by
  unfold optional entry at h
  rw [run_bind_ok (StoreM.run_objects s)] at h
  cases hps : s.objects.entries? c.parameters with
  | none => rw [hps] at h; cases h
  | some ps =>
    rw [hps] at h
    cases h
    refine ⟨rfl, fun ps' hps' => ?_⟩
    cases hps'
    rfl

theorem setDocument_ok {path : Value} (h : (c.setDocument path v).run s = (.ok (), t)) :
    (Document.set path v).run s = (.ok (), t) := by
  unfold setDocument at h
  split at h
  · exact h
  · cases h

end Call

/-- What a call of `world.set` that is made in `x` has changed from `t` to `u`: given the
path of the whole it replaced the document, and given any other it wrote one entry. -/
def Call.Sets (c : Call) (x t u : Store) : Prop :=
  ∃ ps path, x.objects.entries? c.parameters = some ps ∧ Entries.get? "path" ps = some path ∧
    ((path = .text "" ∧ t.objects.Kept u.objects ∧ u.root = (Entries.get? "value" ps).getD .null) ∨
      path ≠ .text "" ∧ t.WritesOneEntry u)

theorem Store.Keeps.sets {c : Call} {x s t u v : Store} (hst : s.Keeps t)
    (hhas : s.objects.Has s.root) (h : c.Sets x t u) (huv : u.Keeps v) : c.Sets x s v := by
  obtain ⟨ps, path, hps, hpath, ⟨hroot, hkept, hvalue⟩ | ⟨hne, hw⟩⟩ := h
  · exact ⟨ps, path, hps, hpath, .inl ⟨hroot, (hst.toKept.trans hkept).trans huv.toKept,
      huv.root.trans hvalue⟩⟩
  · exact ⟨ps, path, hps, hpath, .inr ⟨hne, hst.writesOneEntry hhas hw huv⟩⟩

theorem BuiltIn.exists_of_worldSet_ok {c : Call} {reply : Reply} {s t : Store}
    (h : (worldSet.behave c).run s = (.ok reply, t)) :
    ∃ ps path u, s.objects.entries? c.parameters = some ps ∧ Entries.get? "path" ps = some path ∧
      (Document.set path ((Entries.get? "value" ps).getD .null)).run s = (.ok (), u) ∧
      u.Keeps t := by
  obtain ⟨path, s₁, hpath, h₁⟩ := ok_of_bind h
  obtain ⟨rfl, ps, hps, hget⟩ := Call.required_ok hpath
  obtain ⟨value, s₂, hoptional, h₂⟩ := ok_of_bind h₁
  obtain ⟨rfl, hvalue⟩ := Call.optional_ok hoptional
  obtain ⟨_, u, hset, h₃⟩ := ok_of_bind h₂
  have hrest : u.Keeps t := by
    have hk := ((Call.keeping_successor c "next").bind fun next => Call.keeping_finish [] next) u
    rwa [h₃] at hk
  exact ⟨ps, path, u, hps, hget, hvalue ps hps ▸ Call.setDocument_ok hset, hrest⟩

theorem BuiltIn.worldSet_ok {c : Call} {reply : Reply} {s t : Store}
    (hhas : s.objects.Has s.root) (h : (worldSet.behave c).run s = (.ok reply, t)) :
    c.Sets s s t := by
  obtain ⟨ps, path, u, hps, hget, hset, hrest⟩ := exists_of_worldSet_ok h
  refine (Store.Keeps.refl _).sets hhas ⟨ps, path, hps, hget, ?_⟩ hrest
  obtain ⟨hroot, hobjects, hw⟩ | hwritten := Document.set_ok_cases hhas hset
  · exact .inl ⟨hroot, hobjects ▸ .refl _, hw⟩
  · exact .inr hwritten

end NodeWalk
