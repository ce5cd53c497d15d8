import NodeWalk.Proofs.Actions
import NodeWalk.Proofs.IndexToken
import NodeWalk.Proofs.Kept
import NodeWalk.Proofs.ReadText

set_option autoImplicit false

/-!
# Places in containers

A token selects a slot of a container: the entry of a key, or an item. Reading and
writing a document go from slot to slot, so what holds of a slot holds of objects and
arrays alike.
-/
namespace NodeWalk

inductive Slot where
  | key (k : Text)
  | item (i : Nat)
deriving DecidableEq

namespace Entries

variable {α : Type} {k : Text} {v : α} {es : Entries α}

theorem set_set (k : Text) (v w : α) (es : Entries α) : set k w (set k v es) = set k w es := by
  induction es with
  | nil => simp [set]
  | cons e es ih => by_cases h : e.1 = k <;> simp [set, h, ih]

theorem set_eq_self (h : get? k es = some v) : set k v es = es := by
  induction es with
  | nil => cases h
  | cons e es ih =>
    obtain ⟨k', w⟩ := e
    by_cases he : k' = k
    · have hw : w = v := by simpa [get?, he] using h
      simp [set, he, hw]
    · have hget : get? k es = some v := by simpa [get?, he] using h
      simp [set, he, ih hget]

end Entries

namespace Cell

def at? : Cell → Slot → Option Value
  | .object entries, .key k => Entries.get? k entries
  | .array items, .item i => items[i]?
  | _, _ => none

def write (w : Value) : Cell → Slot → Cell
  | .object entries, .key k => .object (Entries.set k w entries)
  | .array items, .item i => .array (if i = items.length then items ++ [w] else items.set i w)
  | c, _ => c

/-- The slot that a token selects, for a write if `append` holds. -/
def slot (path token : Text) (append : Bool) : Cell → Except Fault Slot
  | .object _ => .ok (.key token)
  | .array items => (Document.index path items.length token append).map .item

variable {c : Cell} {s s' : Slot} {path token : Text} {append : Bool} {v w : Value}

theorem slot_array_ok_iff {items : List Value} :
    slot path token append (.array items) = .ok s ↔
      ∃ i, s = .item i ∧ Document.index path items.length token append = .ok i := by
  rw [slot]
  cases Document.index path items.length token append with
  | error f => simp [Except.map]
  | ok i => simp [Except.map, eq_comm]

theorem le_of_slot {items : List Value} {i : Nat}
    (h : slot path token append (.array items) = .ok (.item i)) : i ≤ items.length := by
  obtain ⟨j, hj, hi⟩ := slot_array_ok_iff.1 h
  cases hj
  obtain ⟨-, -, rfl⟩ | ⟨-, hlt⟩ := Document.index_ok_iff.1 hi
  · exact Nat.le_refl _
  · split at hlt <;> omega

theorem at?_of_index {items : List Value} {i : Nat}
    (h : Document.index path items.length token false = .ok i) :
    at? (.array items) (.item i) = some ((items[i]?).getD .null) := by
  obtain ⟨hfalse, -⟩ | ⟨-, hlt⟩ := Document.index_ok_iff.1 h
  · cases hfalse
  · simp only [Bool.false_eq_true, if_false] at hlt
    simp only [at?, List.getElem?_eq_getElem hlt, Option.getD_some]

theorem at?_write_self (h : slot path token append c = .ok s) : (c.write w s).at? s = some w := by
  cases c with
  | object entries =>
    cases h
    exact Entries.get?_set_self token w entries
  | array items =>
    obtain ⟨i, rfl, -⟩ := slot_array_ok_iff.1 h
    have hle := le_of_slot h
    by_cases hi : i = items.length
    · subst hi
      simp [write, at?]
    · have hlt : i < items.length := by omega
      simp [write, at?, hi, hlt]

theorem at?_write_of_ne (h : s' ≠ s) : (c.write w s).at? s' = c.at? s' := by
  cases c with
  | object entries =>
    cases s with
    | item i => rfl
    | key k =>
      cases s' with
      | item i => rfl
      | key k' =>
        have hk : k' ≠ k := fun he => h (congrArg Slot.key he)
        exact Entries.get?_set_of_ne hk w entries
  | array items =>
    cases s with
    | key k => rfl
    | item i =>
      cases s' with
      | key k' => rfl
      | item j =>
        have hj : j ≠ i := fun he => h (congrArg Slot.item he)
        by_cases hi : i = items.length
        · subst hi
          rcases Nat.lt_or_gt_of_ne hj with hlt | hgt
          · simp [write, at?, List.getElem?_append_left hlt]
          · have hnone : (items ++ [w])[j]? = none := by
              rw [List.getElem?_eq_none_iff, List.length_append, List.length_singleton]
              omega
            simp [write, at?, hnone, Nat.le_of_lt hgt]
        · simp [write, at?, hi, List.getElem?_set_ne (Ne.symm hj)]

theorem write_write (h : slot path token append c = .ok s) :
    (c.write v s).write w s = c.write w s := by
  cases c with
  | object entries =>
    cases h
    exact congrArg Cell.object (Entries.set_set token v w entries)
  | array items =>
    obtain ⟨i, rfl, -⟩ := slot_array_ok_iff.1 h
    by_cases hi : i = items.length
    · subst hi
      simp [write]
    · simp [write, hi]

theorem write_eq_self (h : c.at? s = some w) : c.write w s = c := by
  cases c with
  | object entries =>
    cases s with
    | item i => cases h
    | key k => exact congrArg Cell.object (Entries.set_eq_self h)
  | array items =>
    cases s with
    | key k => cases h
    | item i =>
      obtain ⟨hlt, rfl⟩ := List.getElem?_eq_some_iff.1 h
      simp [write, Nat.ne_of_lt hlt]

theorem forall_values_write {P : Value → Prop} (h : ∀ x ∈ c.values, P x) (hw : P w) (s : Slot) :
    ∀ x ∈ (c.write w s).values, P x := by
  cases c with
  | object entries =>
    cases s with
    | item i => exact h
    | key k =>
      have hes : ∀ e ∈ entries, P e.2 := fun e he => h e.2 (List.mem_map_of_mem he)
      intro x hx
      obtain ⟨e, he, rfl⟩ := List.mem_map.1 hx
      exact Entries.forall_set hes k hw e he
  | array items =>
    cases s with
    | key k => exact h
    | item i =>
      intro x hx
      simp only [write, values] at hx
      split at hx
      · rcases List.mem_append.1 hx with hx | hx
        · exact h x hx
        · exact List.mem_singleton.1 hx ▸ hw
      · rcases List.mem_or_eq_of_mem_set hx with hx | rfl
        · exact h x hx
        · exact hw

theorem mem_values_of_at? (h : c.at? s = some v) : v ∈ c.values := by
  cases c with
  | object entries =>
    cases s with
    | item i => cases h
    | key k => exact List.mem_map_of_mem (Entries.mem_of_get? h)
  | array items =>
    cases s with
    | key k => cases h
    | item i => exact List.mem_of_getElem? h

/-- A token selects the same slot in the written container, as long as it is not the dash
of an array. -/
theorem slot_write_self {path' : Text} (h : slot path token append c = .ok s)
    (hdash : ∀ items, c = .array items → token ≠ "-") (append' : Bool) :
    slot path' token append' (c.write w s) = .ok s := by
  cases c with
  | object entries =>
    cases h
    rfl
  | array items =>
    obtain ⟨i, rfl, hi⟩ := slot_array_ok_iff.1 h
    refine slot_array_ok_iff.2 ⟨i, rfl, Document.index_ok_iff.2 (.inr ?_)⟩
    obtain ⟨-, htoken, -⟩ | ⟨hnames, hlt⟩ := Document.index_ok_iff.1 hi
    · exact absurd htoken (hdash items rfl)
    · refine ⟨hnames, ?_⟩
      by_cases he : i = items.length
      · subst he
        rw [if_pos rfl, List.length_append, List.length_singleton]
        split <;> omega
      · have hlt' : i < items.length := by split at hlt <;> omega
        rw [if_neg he, List.length_set]
        split <;> omega

end Cell

namespace Document

variable {h : Objects} {path token : Text} {tokens : List Text}

theorem walk_ref (h : Objects) (path token : Text) (tokens : List Text) (a : Addr) :
    walk h path (token :: tokens) (.ref a) =
      match (h.cell a).slot path token false with
      | .error f => .error f
      | .ok s =>
        match (h.cell a).at? s with
        | some v => walk h path tokens v
        | none => .error (.path path .missing) := by
  have hfind : h.find? (.ref a) = some (h.cell a) := rfl
  rw [walk, hfind]
  cases hc : h.cell a with
  | object entries => rfl
  | array items =>
    simp only [Cell.slot]
    cases hi : index path items.length token false with
    | error f => rfl
    | ok i => simp only [Except.map, Cell.at?_of_index hi, bind, Except.bind]

end Document
end NodeWalk
