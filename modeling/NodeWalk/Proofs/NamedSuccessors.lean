import NodeWalk.Proofs.WritingRuns

set_option autoImplicit false

/-!
# Successors of built-in nodes

A built-in node names as its successor what its control data hold under `next`, `true` or
`false`, and nothing if they do not hold the key. The control data of a call are a copy that is
made for it, and the document does not lead to the copy, so a write to the document leaves the
control data as they were.
-/
namespace NodeWalk

def successorKeys : List Text := ["next", "true", "false"]

namespace Call

/-- The control data of the call are an object of the store with these entries. -/
def HasFlow (c : Call) (es : Entries Value) (s : Store) : Prop :=
  ∃ f, c.flow = .ref f ∧ f < s.objects.cells.size ∧ s.objects.cell f = .object es

variable {c : Call} {es : Entries Value} {s t : Store} {reply : Reply} {α : Type}

theorem HasFlow.kept (hc : c.HasFlow es s) (hk : s.Keeps t) : c.HasFlow es t := by
  obtain ⟨f, hf, hlt, hcell⟩ := hc
  exact ⟨f, hf, Nat.lt_of_lt_of_le hlt hk.size, (hk.cell f hlt).trans hcell⟩

theorem HasFlow.run_successor (hc : c.HasFlow es s) (key : Text) :
    (c.successor key).run s = (.ok ((Entries.get? key es).getD .null), s) := by
  obtain ⟨f, hf, -, hcell⟩ := hc
  have hes : s.objects.entries? c.flow = some es := by
    rw [hf]
    simp only [Objects.entries?, Objects.find?, hcell]
  unfold successor entry
  rw [run_bind_ok (StoreM.run_objects s), hes]
  rfl

/-- If the action comes to a reply, that names what the control data hold under one of the
three keys. -/
def Continues (c : Call) (m : StoreM Reply) : Prop :=
  ∀ s es reply t, c.HasFlow es s → m.run s = (.ok reply, t) →
    ∃ result, ∃ key ∈ successorKeys, reply = .output result ((Entries.get? key es).getD .null)

theorem Continues.bind {m : StoreM α} {k : α → StoreM Reply} (hm : StoreM.Keeping m)
    (hk : ∀ a, c.Continues (k a)) : c.Continues (m >>= k) := by
  intro s es reply t hc hrun
  obtain ⟨a, u, ha, hrest⟩ := ok_of_bind hrun
  have hkeeps := hm s
  rw [ha] at hkeeps
  exact hk a u es reply t (hc.kept hkeeps) hrest

theorem continues_finish (c : Call) (result : Entries Value) {key : Text}
    (hkey : key ∈ successorKeys) : c.Continues (do finish result (← c.successor key)) := by
  intro s es reply t hc hrun
  rw [run_bind_ok (hc.run_successor key)] at hrun
  cases hrun
  exact ⟨_, key, hkey, rfl⟩

end Call

namespace BuiltIn

open Call StoreM

variable {c : Call} {es : Entries Value} {s t u : Store} {reply : Reply}

theorem continues_putOut (c : Call) (v : Value) : c.Continues (putOut c v) :=
  continues_finish c [("out", v)] (by decide)

/-- To take over the objects that an operation left changes no control data. -/
theorem continues_computed {operation : Objects → Objects.Computed} {a b : Value}
    (ho : ∀ h, (operation h).Ends h a b) (c : Call) :
    c.Continues (do
      let (v, h) ← StoreM.ofExcept (operation (← StoreM.objects))
      StoreM.setObjects h
      putOut c v) := by
  intro s es reply t hc hrun
  rw [run_computed] at hrun
  cases hr : operation s.objects with
  | error f =>
    rw [hr] at hrun
    cases hrun
  | ok r =>
    rw [hr] at hrun
    have hk : s.Keeps (s.withObjects r.2) := ⟨(ho s.objects).kept hr, rfl⟩
    exact continues_putOut c r.1 _ es reply t (hc.kept hk) hrun

theorem continues_binary {operation : Objects → Value → Value → Objects.Computed}
    (ho : ∀ h v w, (operation h v w).Ends h v w) (c : Call) :
    c.Continues (binary operation c) :=
  .bind (keeping_required c "a") fun a => .bind (keeping_required c "b") fun b =>
    continues_computed (fun h => ho h a b) c

theorem continues_const (c : Call) : c.Continues (const.behave c) :=
  .bind (keeping_entry c.parameters "value") fun _ => continues_putOut c _

theorem continues_double (c : Call) : c.Continues (double.behave c) :=
  .bind (keeping_required c "x") fun x =>
    continues_computed (fun h => Objects.ends_mul h x (.int 2)) c

theorem continues_compare (c : Call) : c.Continues (compare.behave c) :=
  .bind keeping_objects fun _ => .bind (keeping_ofExcept _) fun _ =>
    .bind (keeping_required c "a") fun _ => .bind (keeping_required c "b") fun _ =>
      .bind (keeping_ofExcept _) fun _ => continues_putOut c _

theorem continues_branch (c : Call) : c.Continues (branch.behave c) := by
  refine .bind (keeping_entry c.parameters "condition") fun condition =>
    .bind keeping_objects fun h => ?_
  have hkey : Text.ofString (if h.isTrue condition then "true" else "false") ∈ successorKeys := by
    cases h.isTrue condition <;> decide
  exact continues_finish c [] hkey

theorem continues_noop (c : Call) : c.Continues (noop.behave c) :=
  continues_finish c [] (by decide)

theorem continues_worldGet (c : Call) : c.Continues (worldGet.behave c) :=
  .bind (keeping_required c "path") fun _ => .bind (keeping_getDocument c _) fun _ =>
    continues_putOut c _

/-- A write changes containers of the document only, and the control data are none. -/
theorem hasFlow_of_set {path w : Value} (hhas : s.objects.Has s.root)
    (hapart : ∀ a ∈ s.objects.reach s.root, c.flow ≠ .ref a) (hc : c.HasFlow es s)
    (hset : (Document.set path w).run s = (.ok (), t)) : c.HasFlow es t := by
  obtain ⟨f, hf, hlt, hcell⟩ := hc
  obtain ⟨-, hobjects, -⟩ | ⟨-, hwrites⟩ := Document.set_ok_cases hhas hset
  · exact ⟨f, hf, hobjects ▸ hlt, hobjects ▸ hcell⟩
  · obtain ⟨a, ha, -, -, hbeside⟩ := hwrites.entry
    have hne : a ≠ f := fun he => hapart a ha (he ▸ hf)
    exact ⟨f, hf, Nat.lt_of_lt_of_le hlt hwrites.size, (hbeside f hlt hne).trans hcell⟩

theorem worldSet_continues (hhas : s.objects.Has s.root)
    (hapart : ∀ a ∈ s.objects.reach s.root, c.flow ≠ .ref a) (hc : c.HasFlow es s)
    (hrun : (worldSet.behave c).run s = (.ok reply, t)) :
    ∃ result, ∃ key ∈ successorKeys,
      reply = .output result ((Entries.get? key es).getD .null) := by
  obtain ⟨path, s₁, hpath, h₁⟩ := ok_of_bind hrun
  obtain ⟨rfl, -⟩ := required_ok hpath
  obtain ⟨value, s₂, hvalue, h₂⟩ := ok_of_bind h₁
  obtain ⟨rfl, -⟩ := optional_ok hvalue
  obtain ⟨_, u, hset, h₃⟩ := ok_of_bind h₂
  have hu := hasFlow_of_set hhas hapart hc (setDocument_ok hset)
  exact continues_finish c [] (by decide) u es reply t hu h₃

theorem successor_of_builtIn {type : Text} {b : Registered}
    (hb : Registry.builtIn.get? type = some b) (hhas : s.objects.Has s.root)
    (hapart : ∀ a ∈ s.objects.reach s.root, c.flow ≠ .ref a) (hc : c.HasFlow es s)
    (hrun : (b.behave c).run s = (.ok reply, t)) :
    ∃ result, ∃ key ∈ successorKeys,
      reply = .output result ((Entries.get? key es).getD .null) := by
  cases Registry.named_of_get? hb with
  | const => exact continues_const c s es reply t hc hrun
  | add => exact continues_binary Objects.ends_add c s es reply t hc hrun
  | sub => exact continues_binary Objects.ends_sub c s es reply t hc hrun
  | mul => exact continues_binary Objects.ends_mul c s es reply t hc hrun
  | double => exact continues_double c s es reply t hc hrun
  | compare => exact continues_compare c s es reply t hc hrun
  | branch => exact continues_branch c s es reply t hc hrun
  | noop => exact continues_noop c s es reply t hc hrun
  | worldGet => exact continues_worldGet c s es reply t hc hrun
  | worldSet => exact worldSet_continues hhas hapart hc hrun

end BuiltIn

namespace Node.Visit

variable {n : Node} {access : Access} {ps : Entries Value} {c : Call} {t u : Store}

/-- The control data of a call are copied to a new object, so scalars in them are the same. -/
theorem hasFlow_of_call (h : (Visit.call n access ps).run t = (.ok c, u)) :
    ∃ entries t₁ t₂ ρ, t.Keeps t₁ ∧ (flowEntries n.flow).run t₁ = (.ok entries, t₂) ∧
      c.HasFlow (rename ρ entries) u ∧ ∀ a, c.flow = .ref a → t.objects.cells.size ≤ a := by
  unfold Visit.call at h
  obtain ⟨parameters, t₁, hparameters, h₁⟩ := ok_of_bind h
  have hk := StoreM.keeping_newObject ps t
  rw [hparameters] at hk
  obtain ⟨entries, t₂, hentries, h₂⟩ := ok_of_bind h₁
  have hk' := keeping_flowEntries n.flow t₁
  rw [hentries] at hk'
  let g := (t₂.objects.newObject entries).2
  let flow := (t₂.objects.newObject entries).1
  obtain ⟨rfl, rfl⟩ : (⟨parameters, (g.copy flow).1, access⟩ : Call) = c ∧
      { t₂ with objects := (g.copy flow).2 } = u := by
    cases h₂
    exact ⟨rfl, rfl⟩
  have hflow : flow = .ref t₂.objects.cells.size := by
    simp only [flow, Objects.newObject_eq]
  have hreached : t₂.objects.cells.size ∈ g.reach flow := by
    rw [hflow]
    exact Objects.mem_reach_ref g _
  obtain ⟨i, -, -, hi⟩ := Objects.exists_moved hreached g.cells.size
  have hcopy : (g.copy flow).1 = .ref (g.cells.size + i) := by
    rw [Objects.copy_eq, hflow, rename_ref, ← hi, hflow]
  have hsize : t₂.objects.cells.size ≤ g.cells.size :=
    (Objects.kept_newObject entries t₂.objects).size
  refine ⟨entries, t₁, t₂, Objects.Renaming.moved (g.reach flow) g.cells.size, hk, hentries,
    ⟨g.cells.size + i, hcopy, ?_, ?_⟩, fun a ha => ?_⟩
  · exact Objects.has_copy g flow _ (hcopy ▸ Objects.mem_reach_ref _ _)
  · have himage := (Objects.images_copy g flow).cell _ hreached
    have hcell : g.cell t₂.objects.cells.size = .object entries := by
      simp only [g, Objects.newObject_eq, Objects.cell_append_self]
    rw [hi, hcell, rename_object] at himage
    exact himage
  · obtain rfl : g.cells.size + i = a := Value.ref.inj (hcopy.symm.trans ha)
    exact Nat.le_trans (Nat.le_trans (Nat.le_trans hk.size hk'.size) hsize) (Nat.le_add_right _ _)

end Node.Visit
end NodeWalk
