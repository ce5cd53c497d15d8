import NodeWalk.Proofs.Follows
import NodeWalk.Run.Evaluate

set_option autoImplicit false

/-!
# Renamed control data

Control data of a node that was put together by hand may be an object, or a list of
pairs. Either way mirrored data come to mirrored entries, or fail alike.
-/
namespace NodeWalk

section

variable {σ : Renaming} {p : Scope} {h h' : Objects}

theorem parts_rename (hm : Objects.Mirrors σ p h h') (i : Nat) {v : Value} (hv : Within p v) :
    Matches σ p (entriesOf.parts h i v) (entriesOf.parts h' i (rename σ v)) := by
  have texts (ks : List Text) : Within p (ks.map Value.text) ∧
      ks.map Value.text = rename σ (ks.map Value.text) := by
    refine ⟨List.forall_mem_map.2 fun k _ => within_text p k, ?_⟩
    rw [rename_list, List.map_map]
    rfl
  cases v with
  | ref a =>
    have hw := hm.within a hv
    simp only [entriesOf.parts, rename_ref, Objects.find?, hm.cell a hv]
    cases hc : h.cell a with
    | array items =>
      rw [hc] at hw
      exact ⟨hw, rfl⟩
    | object es =>
      rw [rename_object]
      simp only [Entries.keys_rename]
      exact texts es.keys
  | scalar b =>
    cases b with
    | text x =>
      have hx := texts (x.points.map fun c => ⟨[c]⟩)
      rw [List.map_map] at hx
      exact hx
    | _ => exact Fault.Alike.refl _

theorem pairsFrom_rename (hm : Objects.Mirrors σ p h h') {vs : List Value} (hv : Within p vs)
    (i : Nat) : Matches (α := List (Text × Value)) σ p (entriesOf.pairsFrom h i vs)
      (entriesOf.pairsFrom h' i (rename σ vs)) := by
  induction vs generalizing i with
  | nil => exact ⟨within_nil p, rfl⟩
  | cons v vs ih =>
    obtain ⟨hv, hvs⟩ := within_cons.1 hv
    rw [rename_cons, entriesOf.pairsFrom, entriesOf.pairsFrom]
    refine (parts_rename hm i hv).bind fun ws hws => ?_
    match ws, hws with
    | [key, w], hws =>
      obtain ⟨hkey, hw⟩ := within_cons.1 hws
      have hw : Within p w := (within_cons.1 hw).1
      have hpair (k : Text) : Matches (α := List (Text × Value)) σ p
          (do .ok ((k, w) :: (← entriesOf.pairsFrom h (i + 1) vs)))
          (do .ok ((k, rename σ w) :: (← entriesOf.pairsFrom h' (i + 1) (rename σ vs)))) :=
        (ih hvs (i + 1)).bind fun ps hps => ⟨within_cons.2 ⟨hw, hps⟩, rfl⟩
      cases key with
      | ref a =>
        show (Fault.unhashable _).Alike (.unhashable (h'.kind (rename σ (.ref a))))
        rw [hm.kind_rename hkey]
        exact .refl _
      | scalar b =>
        cases b with
        | text k => exact hpair k
        | _ => exact hpair _
    | [], _ => exact Fault.Alike.refl _
    | [_], _ => exact Fault.Alike.refl _
    | w₁ :: w₂ :: w₃ :: ws, _ =>
      show (Fault.entryLength i _).Alike (.entryLength i (rename σ (w₁ :: w₂ :: w₃ :: ws)).length)
      rw [length_rename]
      exact .refl _

theorem ofPairs_rename (σ : Renaming) (ps : List (Text × Value)) :
    Entries.ofPairs (rename σ ps) = rename σ (Entries.ofPairs ps) := by
  have hf (es : Entries Value) : (rename σ ps).foldl (fun es q => Entries.set q.1 q.2 es)
      (rename σ es) = rename σ (ps.foldl (fun es q => Entries.set q.1 q.2 es) es) := by
    induction ps generalizing es with
    | nil => rfl
    | cons q ps ih =>
      rw [rename_cons, List.foldl_cons, List.foldl_cons, ← ih, ← Entries.set_rename]
      rfl
  exact hf []

theorem within_ofPairs {ps : List (Text × Value)} (hp : Within p ps) :
    Within p (Entries.ofPairs ps) := by
  have hf (es : Entries Value) (hes : Within p es) :
      Within p (ps.foldl (fun es q => Entries.set q.1 q.2 es) es) := by
    induction ps generalizing es with
    | nil => exact hes
    | cons q ps ih =>
      obtain ⟨hq, hps⟩ := within_cons.1 hp
      exact ih hps _ (Entries.within_set (v := q.2) hq hes q.1)
  exact hf [] (within_nil p)

theorem entriesOf_rename (hm : Objects.Mirrors σ p h h') {v : Value} (hv : Within p v) :
    Matches (α := Entries Value) σ p (entriesOf h v) (entriesOf h' (rename σ v)) := by
  cases v with
  | ref a =>
    have hw := hm.within a hv
    simp only [entriesOf, rename_ref, Objects.find?, hm.cell a hv]
    cases hc : h.cell a with
    | array items =>
      rw [hc] at hw
      refine (pairsFrom_rename hm hw 0).bind fun ps hps => ?_
      exact ⟨within_ofPairs hps, ofPairs_rename σ ps⟩
    | object es =>
      rw [hc] at hw
      exact ⟨within_object.1 hw, rfl⟩
  | scalar b =>
    cases b with
    | text x =>
      have he (g : Objects) : entriesOf g (.text x) =
          if x = "" then .ok [] else .error (.entryLength 0 1) := rfl
      rw [he, show rename σ (Value.text x) = .text x from rfl, he]
      split
      · exact ⟨within_nil p, rfl⟩
      · exact Fault.Alike.refl _
    | _ => exact Fault.Alike.refl _

end

end NodeWalk
