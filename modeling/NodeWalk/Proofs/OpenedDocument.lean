import NodeWalk.Proofs.Follows
import NodeWalk.Proofs.ReadText
import NodeWalk.WorldFile

set_option autoImplicit false

/-!
# Opened documents

A document is opened from a tree that was read, or from a value that lives among the
objects. Either way it is a copy of its own. Opened twice, among objects that agree on
what it is opened from, it is mirrored, and all that it leads to is new.
-/
namespace NodeWalk

inductive Origin where
  | tree (j : Json)
  | value (v : Value)

namespace Origin

def opened (o : Origin) (h : Objects) : Store :=
  match o with
  | .tree j => WorldFile.ofValue (h.load j).1 (h.load j).2
  | .value v => WorldFile.ofValue v h

/-- The tree is one that was read, or the value is in the scope. -/
def From (p : Scope) : Origin → Prop
  | .tree j => j.Every Scalar.Unmarked
  | .value v => Within p v

end Origin

theorem Document.kept_adopt (v : Value) (h : Objects) : h.Kept (adopt v h).2 := by
  unfold adopt
  split
  · exact Objects.kept_newObject [] h
  · exact Objects.kept_copy v h

section

variable {ρ σ : Renaming} {s p : Scope} {t t' : Store}

namespace Follows

theorem adopt (hl : Linked ρ s t t') (hp : Objects.Source σ p ρ s t.objects t'.objects) {v : Value}
    (hv : Within p v) : Follows ρ s t t' (StoreM.extend (Document.adopt v))
      (StoreM.extend (Document.adopt (rename σ v))) := by
  cases v with
  | ref a => exact .copy hl hp hv
  | scalar a =>
    cases a with
    | null => exact .newObject hl (within_nil s)
    | _ => exact .copy hl hp hv

theorem loadItems {items : List Json}
    (h : ∀ j ∈ items, ∀ {ρ s t t'}, Linked ρ s t t' →
      Follows ρ s t t' (StoreM.extend (Objects.load j)) (StoreM.extend (Objects.load j)))
    (hl : Linked ρ s t t') :
    Follows ρ s t t' (StoreM.extend (Objects.loadItems items))
      (StoreM.extend (Objects.loadItems items)) := by
  induction items generalizing ρ s t t' with
  | nil => exact .pure hl (within_nil s)
  | cons j js ih =>
    obtain ⟨hj, hjs⟩ := List.forall_mem_cons.1 h
    have hrun (x : Store) : (StoreM.extend (Objects.loadItems (j :: js))).run x =
        (do
          let v ← StoreM.extend (Objects.load j)
          let vs ← StoreM.extend (Objects.loadItems js)
          return v :: vs).run x := rfl
    refine .of_run (hrun t) (hrun t') (.bind (hj hl) fun ρ₁ s₁ u u' v hl₁ _ hv _ _ => ?_)
    refine .bind (ih hjs hl₁) fun ρ₂ s₂ w w' vs hl₂ hg₂ hvs _ _ => ?_
    rw [Carries.congr hg₂.agrees.symm hv, ← rename_cons]
    exact .pure hl₂ (within_cons.2 ⟨Carries.mono hg₂.le hv, hvs⟩)

theorem loadMembers {entries : List (Text × Json)}
    (h : ∀ e ∈ entries, ∀ {ρ s t t'}, Linked ρ s t t' →
      Follows ρ s t t' (StoreM.extend (Objects.load e.2)) (StoreM.extend (Objects.load e.2)))
    (hl : Linked ρ s t t') :
    Follows ρ s t t' (StoreM.extend (Objects.loadMembers entries))
      (StoreM.extend (Objects.loadMembers entries)) := by
  induction entries generalizing ρ s t t' with
  | nil => exact .pure hl (within_nil s)
  | cons e es ih =>
    obtain ⟨he, hes⟩ := List.forall_mem_cons.1 h
    obtain ⟨k, j⟩ := e
    have hrun (x : Store) : (StoreM.extend (Objects.loadMembers ((k, j) :: es))).run x =
        (do
          let v ← StoreM.extend (Objects.load j)
          let vs ← StoreM.extend (Objects.loadMembers es)
          return (k, v) :: vs).run x := rfl
    refine .of_run (hrun t) (hrun t') (.bind (he hl) fun ρ₁ s₁ u u' v hl₁ _ hv _ _ => ?_)
    refine .bind (ih hes hl₁) fun ρ₂ s₂ w w' vs hl₂ hg₂ hvs _ _ => ?_
    rw [Carries.congr hg₂.agrees.symm hv, ← rename_pair, ← rename_cons]
    exact .pure hl₂ (within_cons.2 ⟨Carries.mono hg₂.le hv, hvs⟩)

theorem load {j : Json} (hj : j.Every Scalar.Unmarked) (hl : Linked ρ s t t') :
    Follows ρ s t t' (StoreM.extend (Objects.load j)) (StoreM.extend (Objects.load j)) := by
  induction hj generalizing ρ s t t' with
  | @scalar a h =>
    have hw : Within s (Value.scalar a) := by
      rintro m ⟨x, hx, rfl⟩
      rw [h x hx]
      exact hl.zero
    have hr : rename ρ (Value.scalar a) = .scalar a := by
      cases a with
      | float x =>
        rw [rename_scalar, rename_float, h x rfl, hl.imageZero, ← h x rfl]
      | _ => rfl
    have hp := Follows.pure hl hw
    rw [hr] at hp
    exact hp
  | @array items _ ih =>
    have hrun (x : Store) : (StoreM.extend (Objects.load (.array items))).run x =
        (do StoreM.extend (Objects.newArray (← StoreM.extend (Objects.loadItems items)))).run x :=
      rfl
    exact .of_run (hrun t) (hrun t') (.bind (.loadItems ih hl)
      fun _ _ _ _ _ hl₁ _ hvs _ _ => .newArray hl₁ hvs)
  | @object entries _ ih =>
    have hrun (x : Store) : (StoreM.extend (Objects.load (.object entries))).run x =
        (do StoreM.extend (Objects.newObject (← StoreM.extend (Objects.loadMembers entries)))).run x
      := rfl
    exact .of_run (hrun t) (hrun t') (.bind (.loadMembers ih hl)
      fun _ _ _ _ _ hl₁ _ hes _ _ => .newObject hl₁ hes)

end Follows

/-- What is loaded from a tree that was read is held, with the objects that it consists of. -/
theorem Objects.holds_load {j : Json} (hj : j.Every Scalar.Unmarked) :
    ∃ s, (Objects.empty.load j).2.Holds s ∧ Within s (Objects.empty.load j).1 := by
  have hnone : Objects.empty.Holds ⟨∅, {0}⟩ :=
    ⟨fun _ ha => ha.elim, fun _ ha => ha.elim, fun _ hm => hm ▸ Nat.one_pos, rfl⟩
  have hl : Linked .same ⟨∅, {0}⟩ ⟨.empty, .null, #[]⟩ ⟨.empty, .null, #[]⟩ :=
    ⟨hnone.mirrors, within_null _, rfl⟩
  obtain ⟨ρ, s, hl', -, hv, -⟩ := Follows.load hj hl
  exact ⟨s, hl'.toHolds, hv⟩

namespace Origin

variable {o : Origin} {h h' : Objects}

def take : Origin → StoreM Value
  | .tree j => do StoreM.extend (Document.adopt (← StoreM.extend (Objects.load j)))
  | .value v => StoreM.extend (Document.adopt v)

theorem run_take (o : Origin) (h : Objects) :
    o.take.run ⟨h, .null, #[]⟩ = (.ok (o.opened h).root, { o.opened h with root := .null }) := by
  cases o <;> rfl

theorem take_follows (hl : Linked ρ s t t') (hp : Objects.Source .same p ρ s t.objects t'.objects)
    (ho : o.From p) : Follows ρ s t t' o.take o.take := by
  cases o with
  | value v =>
    have ha := Follows.adopt hl hp (v := v) ho
    rwa [Carries.same] at ha
  | tree j =>
    exact .bind (.load ho hl) fun _ _ _ _ _ hl₁ _ hv _ _ => .adopt hl₁ hl₁.source hv

def marksOf (p : Scope) : Scope := ⟨∅, p.marks⟩

/-- Among objects that agree on `p` the document is opened alike, in cells that are
new on the first side. -/
theorem opened_linked (hm : Objects.Mirrors .same p h h') (ho : o.From p) :
    ∃ ρ s, Linked ρ s (o.opened h) (o.opened h') ∧
      Grows .same (marksOf p) ⟨h, .null, #[]⟩ ρ s (o.opened h) := by
  have hl : Linked .same (marksOf p) ⟨h, .null, #[]⟩ ⟨h', .null, #[]⟩ :=
    { size := fun _ ha => ha.elim
      within := fun _ ha => ha.elim
      mark := hm.mark
      zero := hm.zero
      imageSize := fun _ ha => ha.elim
      cell := fun _ ha => ha.elim
      inj := fun _ ha => ha.elim
      imageMark := hm.imageMark
      injMark := hm.injMark
      imageZero := hm.imageZero
      root := within_null _
      imageRoot := rfl }
  obtain ⟨ρ, s, hl', hg, hr⟩ := take_follows hl ⟨hm, fun _ h => h, fun _ _ => rfl⟩ ho
  rw [run_take, run_take] at hl' hr
  rw [run_take] at hg
  exact ⟨ρ, s, ⟨hl'.toMirrors, hr.1, hr.2⟩, hg.toWidens.trans (.kept s (.refl _)), hg.agrees⟩

theorem kept_opened (hp : h.Holds p) (ho : o.From p) : h.Kept (o.opened h).objects := by
  obtain ⟨_, _, -, hg⟩ := opened_linked hp.mirrors ho
  exact ⟨hg.size, fun a ha => hg.frame a ha fun hn => hn.elim, hg.mark⟩

end Origin
end
end NodeWalk
