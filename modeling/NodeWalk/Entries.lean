import NodeWalk.Text

set_option autoImplicit false

/-!
# Entries

A table of texts to values that remembers the order in which keys first came:
writing a new key puts it last, writing a present key moves nothing.
-/
namespace NodeWalk

abbrev Entries (α : Type) := List (Text × α)

namespace Entries

variable {α β : Type}

def get? (k : Text) : Entries α → Option α
  | [] => none
  | (k', v) :: es => if k' = k then some v else get? k es

def contains (k : Text) (es : Entries α) : Bool := (get? k es).isSome

def set (k : Text) (v : α) : Entries α → Entries α
  | [] => [(k, v)]
  | (k', w) :: es => if k' = k then (k', v) :: es else (k', w) :: set k v es

def erase (k : Text) : Entries α → Entries α
  | [] => []
  | (k', v) :: es => if k' = k then es else (k', v) :: erase k es

def keys (es : Entries α) : List Text := es.map (·.1)

/-- The last value of each key, at the place of its first. -/
def ofPairs (pairs : List (Text × α)) : Entries α :=
  pairs.foldl (fun es p => set p.1 p.2 es) []

theorem get?_set_self (k : Text) (v : α) (es : Entries α) : get? k (set k v es) = some v := by
  induction es with
  | nil => simp [set, get?]
  | cons e es ih =>
    by_cases h : e.1 = k
    · simp [set, get?, h]
    · simp [set, get?, h, ih]

theorem get?_set_of_ne {k k' : Text} (h : k' ≠ k) (v : α) (es : Entries α) :
    get? k' (set k v es) = get? k' es := by
  induction es with
  | nil => simp [set, get?, Ne.symm h]
  | cons e es ih =>
    by_cases he : e.1 = k
    · simp [set, get?, he, Ne.symm h]
    · by_cases hk : e.1 = k' <;> simp [set, get?, he, hk, h, ih]

theorem keys_set (k : Text) (v : α) (es : Entries α) :
    keys (set k v es) = if k ∈ keys es then keys es else keys es ++ [k] := by
  induction es with
  | nil => simp [set, keys]
  | cons e es ih =>
    by_cases h : e.1 = k
    · simp [set, keys, h]
    · have hk : ¬ k = e.1 := fun hc => h hc.symm
      simp only [keys] at ih
      by_cases hm : k ∈ es.map (·.1) <;> simp_all [set, keys]

theorem get?_erase_of_ne {k k' : Text} (h : k' ≠ k) (es : Entries α) :
    get? k' (erase k es) = get? k' es := by
  induction es with
  | nil => rfl
  | cons e es ih =>
    by_cases he : e.1 = k
    · simp [erase, get?, he, Ne.symm h]
    · by_cases hk : e.1 = k' <;> simp [erase, get?, he, hk, h, ih]

theorem keys_erase (k : Text) (es : Entries α) : keys (erase k es) = (keys es).erase k := by
  induction es with
  | nil => rfl
  | cons e es ih =>
    simp only [keys] at ih
    by_cases h : e.1 = k <;> simp [erase, keys, h, ih]

theorem contains_iff_mem_keys (k : Text) (es : Entries α) :
    contains k es = true ↔ k ∈ keys es := by
  induction es with
  | nil => simp [contains, get?, keys]
  | cons e es ih =>
    by_cases he : e.1 = k
    · simp [contains, get?, keys, he]
    · have hk : ¬ k = e.1 := fun hc => he hc.symm
      simpa [contains, get?, keys, he, hk] using ih

theorem mem_of_get? {k : Text} {v : α} {es : Entries α} (h : get? k es = some v) :
    (k, v) ∈ es := by
  induction es with
  | nil => cases h
  | cons e es ih =>
    obtain ⟨k', w⟩ := e
    by_cases he : k' = k
    · simp_all [get?]
    · exact List.mem_cons_of_mem _ (ih (by simpa [get?, he] using h))

end Entries
end NodeWalk
