import NodeWalk.Proofs.ComputedValues
import NodeWalk.Proofs.Turn
import NodeWalk.Run.BuiltIn

set_option autoImplicit false

/-!
# Behaviors that only add

A sum, a difference or a product is a new scalar or a new array, and the output of a
behavior is a new object. So each of the built-in behaviors but `world.set` leaves every
cell that it finds as it is, and the document too, however it ends.
-/
namespace NodeWalk

namespace Objects

theorem kept_freshMark (h : Objects) : h.Kept h.freshMark.2 where
  size := Nat.le_refl _
  cell _ _ := rfl
  mark := Nat.le_succ _

theorem Computed.Ends.kept {h g : Objects} {a b v : Value} {r : Computed} (hr : r.Ends h a b)
    (hok : r = .ok (v, g)) : h.Kept g := by
  cases hr with
  | fault due => cases hok
  | scalar s =>
    cases hok
    exact .refl h
  | number x =>
    cases hok
    exact kept_freshMark h
  | array given =>
    cases hok
    exact kept_newArray _ h

end Objects

namespace Call

open StoreM

theorem keeping_entry (v : Value) (key : Text) : Keeping (entry v key) := by
  refine keeping_objects.bind fun h => ?_
  split
  · exact keeping_pure _
  · exact keeping_fail _

theorem keeping_required (c : Call) (key : Text) : Keeping (c.required key) := by
  refine keeping_objects.bind fun h => ?_
  split
  · split
    · exact keeping_pure _
    · exact keeping_fail _
  · exact keeping_fail _

theorem keeping_successor (c : Call) (key : Text) : Keeping (c.successor key) :=
  keeping_entry c.flow key

theorem keeping_getDocument (c : Call) (path : Value) : Keeping (c.getDocument path) := by
  unfold getDocument
  split
  · exact Keeping.bind (fun s => .refl s) fun _ => keeping_ofExcept _
  · exact keeping_fail _

theorem keeping_finish (result : Entries Value) (next : Value) : Keeping (finish result next) :=
  (keeping_newObject result).bind fun _ => keeping_pure _

end Call

namespace BuiltIn

open Call StoreM

theorem keeping_putOut (c : Call) (v : Value) : Keeping (putOut c v) :=
  (keeping_successor c "next").bind fun _ => keeping_finish _ _

/-- An operation whose result is put out: its objects are taken over, or its fault is raised. -/
theorem run_computed (operation : Objects → Objects.Computed) (c : Call) (s : Store) :
    (do
      let (v, h) ← StoreM.ofExcept (operation (← StoreM.objects))
      StoreM.setObjects h
      putOut c v : StoreM Reply).run s = match operation s.objects with
        | .ok (v, h) => (putOut c v).run (s.withObjects h)
        | .error f => (.error f.settled, s) := by
  rw [run_bind_ok (run_objects s)]
  cases operation s.objects with
  | error f => rw [run_bind_error (run_ofExcept_error f s)]
  | ok r =>
    rw [run_bind_ok (run_ofExcept_ok r s)]
    dsimp only
    rw [run_bind_ok (run_setObjects r.2 s)]
    rfl

theorem keeping_computed {operation : Objects → Objects.Computed} {a b : Value}
    (ho : ∀ h, (operation h).Ends h a b) (c : Call) :
    Keeping (do
      let (v, h) ← StoreM.ofExcept (operation (← StoreM.objects))
      StoreM.setObjects h
      putOut c v) := by
  intro s
  rw [run_computed]
  cases hr : operation s.objects with
  | error f => exact .refl s
  | ok r =>
    have hs : s.Keeps (s.withObjects r.2) := ⟨(ho s.objects).kept hr, rfl⟩
    exact hs.trans (keeping_putOut c r.1 _)

theorem keeping_binary {operation : Objects → Value → Value → Objects.Computed}
    (ho : ∀ h v w, (operation h v w).Ends h v w) (c : Call) : Keeping (binary operation c) :=
  (keeping_required c "a").bind fun a => (keeping_required c "b").bind fun b =>
    keeping_computed (fun h => ho h a b) c

theorem keeping_const (c : Call) : Keeping (const.behave c) :=
  (keeping_entry c.parameters "value").bind fun _ => keeping_putOut c _

theorem keeping_double (c : Call) : Keeping (double.behave c) :=
  (keeping_required c "x").bind fun x =>
    keeping_computed (fun h => Objects.ends_mul h x (.int 2)) c

theorem keeping_compare (c : Call) : Keeping (compare.behave c) :=
  keeping_objects.bind fun _ => (keeping_ofExcept _).bind fun _ =>
    (keeping_required c "a").bind fun _ => (keeping_required c "b").bind fun _ =>
      (keeping_ofExcept _).bind fun _ => keeping_putOut c _

theorem keeping_branch (c : Call) : Keeping (branch.behave c) :=
  (keeping_entry c.parameters "condition").bind fun _ => keeping_objects.bind fun _ =>
    (keeping_successor c _).bind fun _ => keeping_finish _ _

theorem keeping_noop (c : Call) : Keeping (noop.behave c) :=
  (keeping_successor c "next").bind fun _ => keeping_finish _ _

theorem keeping_worldGet (c : Call) : Keeping (worldGet.behave c) :=
  (keeping_required c "path").bind fun _ => (keeping_getDocument c _).bind fun _ =>
    keeping_putOut c _

theorem eq_worldSet_or_keeping {type : Text} {b : Registered}
    (h : Registry.builtIn.get? type = some b) :
    (type = "world.set" ∧ b = worldSet) ∨
      type ≠ "world.set" ∧ ∀ c, Keeping (b.behave c) := by
  cases Registry.named_of_get? h with
  | const => exact .inr ⟨by decide, keeping_const⟩
  | add => exact .inr ⟨by decide, keeping_binary Objects.ends_add⟩
  | sub => exact .inr ⟨by decide, keeping_binary Objects.ends_sub⟩
  | mul => exact .inr ⟨by decide, keeping_binary Objects.ends_mul⟩
  | double => exact .inr ⟨by decide, keeping_double⟩
  | compare => exact .inr ⟨by decide, keeping_compare⟩
  | branch => exact .inr ⟨by decide, keeping_branch⟩
  | noop => exact .inr ⟨by decide, keeping_noop⟩
  | worldGet => exact .inr ⟨by decide, keeping_worldGet⟩
  | worldSet => exact .inl ⟨rfl, rfl⟩

end BuiltIn
end NodeWalk
