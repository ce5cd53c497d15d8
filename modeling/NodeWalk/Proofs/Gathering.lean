import Mathlib.Algebra.Ring.Nat
import Mathlib.Data.List.Induction

set_option autoImplicit false

/-!
# Gathering by keys

Tables whose keys are found by a sameness that need not be equality. To gather a list by a key is
to change the table for one item after the other. The keys of the table are then those of the
items, each where and as it first came, and under a key stands what its own items made.
-/
namespace NodeWalk

variable {κ κ' α β : Type}

section

variable {same : κ → κ → Bool} {ks : List κ} {k l : κ}

private theorem eraseDupsBy_loop_concat (ks seen : List κ) (k : κ) :
    List.eraseDupsBy.loop same (ks ++ [k]) seen =
      if (List.eraseDupsBy.loop same ks seen).any (same k) then List.eraseDupsBy.loop same ks seen
      else List.eraseDupsBy.loop same ks seen ++ [k] := by
  induction ks generalizing seen with
  | nil => cases h : seen.any (same k) <;> simp [List.eraseDupsBy.loop, h]
  | cons l ks ih =>
    cases h : seen.any (same l) <;> simp only [List.cons_append, List.eraseDupsBy.loop, h, ih]

theorem eraseDupsBy_concat (ks : List κ) (k : κ) : (ks ++ [k]).eraseDupsBy same =
    if (ks.eraseDupsBy same).any (same k) then ks.eraseDupsBy same
    else ks.eraseDupsBy same ++ [k] :=
  eraseDupsBy_loop_concat ks [] k

theorem eraseDupsBy_ne_nil (h : ks ≠ []) : ks.eraseDupsBy same ≠ [] := by
  cases ks with
  | nil => exact (h rfl).elim
  | cons k ks =>
    rw [List.eraseDupsBy_cons]
    exact List.cons_ne_nil _ _

theorem mem_of_mem_eraseDupsBy (h : k ∈ ks.eraseDupsBy same) : k ∈ ks := by
  induction ks using List.reverseRecOn with
  | nil => exact h
  | append_singleton ks l ih =>
    rw [eraseDupsBy_concat] at h
    split at h
    · exact List.mem_append_left _ (ih h)
    · exact (List.mem_append.1 h).elim (fun h => List.mem_append_left _ (ih h))
        (List.mem_append_right _)

variable (hs : Equivalence fun k l => same k l = true)

include hs

theorem same_comm (k l : κ) : same k l = same l k :=
  Bool.eq_iff_iff.2 ⟨hs.symm, hs.symm⟩

theorem same_congr (h : same k l = true) (m : κ) : same k m = same l m :=
  Bool.eq_iff_iff.2 ⟨hs.trans (hs.symm h), hs.trans h⟩

theorem same_congr_right (h : same k l = true) (m : κ) : same m k = same m l := by
  rw [same_comm hs, same_congr hs h, same_comm hs]

theorem any_eraseDupsBy (ks : List κ) (k : κ) :
    (ks.eraseDupsBy same).any (same k) = ks.any (same k) := by
  induction ks using List.reverseRecOn with
  | nil => rfl
  | append_singleton ks l ih =>
    rw [eraseDupsBy_concat, List.any_append, ← ih]
    split
    · rename_i hl
      cases hk : same k l with
      | false => simp [hk]
      | true =>
        rw [show same k = same l from funext (same_congr hs hk), hl]
        rfl
    · rw [List.any_append]

theorem pairwise_eraseDupsBy (ks : List κ) :
    (ks.eraseDupsBy same).Pairwise fun k l => same k l = false := by
  induction ks using List.reverseRecOn with
  | nil => exact .nil
  | append_singleton ks l ih =>
    rw [eraseDupsBy_concat]
    split
    · exact ih
    · rename_i hl
      refine List.pairwise_append.2 ⟨ih, List.pairwise_singleton _ _, fun k hk m hm => ?_⟩
      rw [List.mem_singleton.1 hm, same_comm hs]
      exact Bool.eq_false_iff.2 fun hc => hl (List.any_eq_true.2 ⟨k, hk, hc⟩)

theorem eraseDupsBy_of_pairwise (h : ks.Pairwise fun k l => same k l = false) :
    ks.eraseDupsBy same = ks := by
  induction ks using List.reverseRecOn with
  | nil => rfl
  | append_singleton ks l ih =>
    obtain ⟨hks, -, hl⟩ := List.pairwise_append.1 h
    have hnew : ks.any (same l) = false :=
      List.any_eq_false.2 fun k hk => by
        simp [same_comm hs l k, hl k hk l List.mem_cons_self]
    rw [eraseDupsBy_concat, ih hks, hnew]
    rfl

theorem filter_eraseDupsBy {p : κ → Bool} (hp : ∀ k l, same k l = true → p k = p l)
    (ks : List κ) : (ks.eraseDupsBy same).filter p = (ks.filter p).eraseDupsBy same := by
  induction ks using List.reverseRecOn with
  | nil => rfl
  | append_singleton ks l ih =>
    rw [List.filter_append, eraseDupsBy_concat, any_eraseDupsBy hs, List.filter_cons,
      List.filter_nil]
    cases hl : p l with
    | false => split <;> simp [List.filter_append, hl, ih]
    | true =>
      have hany : (ks.filter p).any (same l) = ks.any (same l) := by
        rw [List.any_filter]
        refine List.any_congr rfl fun k => ?_
        cases hk : same l k with
        | false => simp
        | true => simp [← hp l k hk, hl]
      rw [if_pos rfl, eraseDupsBy_concat, any_eraseDupsBy hs, hany]
      split <;> simp [List.filter_append, hl, ih]

/-- What is the same key is the same under a coarser sameness, so a key that comes again by the
finer one comes again by the coarser one. -/
theorem eraseDupsBy_map_eraseDupsBy {same' : κ' → κ' → Bool}
    (hs' : Equivalence fun k l => same' k l = true) {g : κ → κ'}
    (hg : ∀ k l, same k l = true → same' (g k) (g l) = true) (ks : List κ) :
    ((ks.eraseDupsBy same).map g).eraseDupsBy same' = (ks.map g).eraseDupsBy same' := by
  induction ks using List.reverseRecOn with
  | nil => rfl
  | append_singleton ks l ih =>
    rw [eraseDupsBy_concat, List.map_append, List.map_singleton, eraseDupsBy_concat]
    split
    · rename_i hl
      obtain ⟨k, hk, hlk⟩ := List.any_eq_true.1 (any_eraseDupsBy hs ks l ▸ hl)
      have hagain : (ks.map g).any (same' (g l)) = true :=
        List.any_eq_true.2 ⟨g k, List.mem_map_of_mem hk, hg l k hlk⟩
      rw [ih, any_eraseDupsBy hs', hagain, if_pos rfl]
    · rw [List.map_append, List.map_singleton, eraseDupsBy_concat, ih]

end

namespace Table

def change (same : κ → κ → Bool) (k : κ) (default : α) (f : α → α) : List (κ × α) → List (κ × α)
  | [] => [(k, f default)]
  | (l, a) :: es =>
    if same l k then (l, f a) :: es else (l, a) :: change same k default f es

def find? (same : κ → κ → Bool) (k : κ) : List (κ × α) → Option α
  | [] => none
  | (l, a) :: es => if same l k then some a else find? same k es

def gather (same : κ → κ → Bool) (key : β → κ) (default : α) (f : β → α → α) (bs : List β) :
    List (κ × α) :=
  bs.foldl (fun es b => change same (key b) default (f b) es) []

variable {same : κ → κ → Bool} {ks : List κ} {k : κ} {default : α} {key : β → κ}

theorem gather_concat (f : β → α → α) (bs : List β) (b : β) :
    gather same key default f (bs ++ [b]) =
      change same (key b) default (f b) (gather same key default f bs) := by
  rw [gather, gather, List.foldl_append, List.foldl_cons, List.foldl_nil]

variable (hs : Equivalence fun k l => same k l = true)

include hs

theorem change_map (hks : ks.Pairwise fun k l => same k l = false) (g : κ → α) (f : α → α) :
    change same k default f (ks.map fun l => (l, g l)) =
      (ks.map fun l => (l, if same l k then f (g l) else g l)) ++
        if ks.any (same k) then [] else [(k, f default)] := by
  induction ks with
  | nil => rfl
  | cons l ks ih =>
    obtain ⟨hl, hks⟩ := List.pairwise_cons.1 hks
    cases hlk : same l k with
    | true =>
      have hrest : ∀ m ∈ ks, same m k = false := by
        intro m hm
        rw [same_comm hs, ← same_congr hs hlk]
        exact hl m hm
      have hsame : ks.map (fun m => (m, if same m k then f (g m) else g m)) =
          ks.map fun m => (m, g m) :=
        List.map_congr_left fun m hm => by simp [hrest m hm]
      simp [change, hlk, same_comm hs k, hsame]
    | false => simp [change, hlk, same_comm hs k, ih hks]

/-- The table of what is gathered has the keys where they first came, and under each what its own
items made. -/
theorem gather_eq (f : β → α → α) (bs : List β) : gather same key default f bs =
    ((bs.map key).eraseDupsBy same).map fun k =>
      (k, (bs.filter fun b => same k (key b)).foldl (fun a b => f b a) default) := by
  induction bs using List.reverseRecOn with
  | nil => rfl
  | append_singleton bs b ih =>
    have hgroups : ∀ l, ((bs ++ [b]).filter fun b => same l (key b)).foldl (fun a b => f b a)
        default = if same l (key b) then
          f b ((bs.filter fun b => same l (key b)).foldl (fun a b => f b a) default)
        else (bs.filter fun b => same l (key b)).foldl (fun a b => f b a) default := by
      intro l
      cases hl : same l (key b) <;> simp [List.filter_append, hl]
    rw [gather_concat, ih, change_map hs (pairwise_eraseDupsBy hs _), List.map_append,
      List.map_singleton, eraseDupsBy_concat]
    simp only [hgroups]
    split
    · simp
    · rename_i hnew
      rw [any_eraseDupsBy hs] at hnew
      have hnone : (bs.filter fun c => same (key b) (key c)) = [] := by
        refine List.filter_eq_nil_iff.2 fun c hc hsame => hnew ?_
        exact List.any_eq_true.2 ⟨key c, List.mem_map_of_mem hc, hsame⟩
      simp [hs.refl, hnone]

theorem keys_gather (f : β → α → α) (bs : List β) :
    (gather same key default f bs).map (·.1) = (bs.map key).eraseDupsBy same := by
  rw [gather_eq hs, List.map_map]
  exact List.map_id _

theorem gather_ne_nil {bs : List β} (h : bs ≠ []) (f : β → α → α) :
    gather same key default f bs ≠ [] := by
  intro hnil
  have hkeys : (gather same key default f bs).map (·.1) = (bs.map key).eraseDupsBy same :=
    keys_gather hs f bs
  rw [hnil] at hkeys
  exact eraseDupsBy_ne_nil (mt List.map_eq_nil_iff.1 h) hkeys.symm

/-- What stands in the table was made by the items of its key, of which there is at least the one
that the key came with. -/
theorem mem_gather {f : β → α → α} {bs : List β} {e : κ × α}
    (he : e ∈ gather same key default f bs) :
    (bs.filter fun b => same e.1 (key b)) ≠ [] ∧
      e.2 = (bs.filter fun b => same e.1 (key b)).foldl (fun a b => f b a) default := by
  rw [gather_eq hs] at he
  obtain ⟨k, hk, rfl⟩ := List.mem_map.1 he
  obtain ⟨b, hb, rfl⟩ := List.mem_map.1 (mem_of_mem_eraseDupsBy hk)
  exact ⟨List.ne_nil_of_mem (List.mem_filter.2 ⟨hb, hs.refl _⟩), rfl⟩

theorem find?_map (ks : List κ) {g : κ → α} (hg : ∀ k l, same k l = true → g k = g l) (k : κ) :
    find? same k (ks.map fun l => (l, g l)) = if ks.any (same k) then some (g k) else none := by
  induction ks with
  | nil => rfl
  | cons l ks ih =>
    cases hl : same l k with
    | true => simp [find?, hl, same_comm hs k, hg l k hl]
    | false => simp [find?, hl, same_comm hs k, ih]

theorem filter_same_congr {l : κ} (h : same k l = true) (bs : List β) :
    (bs.filter fun b => same k (key b)) = bs.filter fun b => same l (key b) :=
  congrArg (bs.filter ·) (funext fun b => same_congr hs h (key b))

theorem find?_gather (f : β → α → α) (bs : List β) (k : κ) :
    find? same k (gather same key default f bs) =
      if (bs.filter fun b => same k (key b)) = [] then none
      else some ((bs.filter fun b => same k (key b)).foldl (fun a b => f b a) default) := by
  have hany : (bs.map key).any (same k) = true ↔ (bs.filter fun b => same k (key b)) ≠ [] := by
    simp [List.filter_eq_nil_iff]
  rw [gather_eq hs, find?_map hs _ fun k l h => by rw [filter_same_congr hs h],
    any_eraseDupsBy hs]
  split <;> simp_all

theorem find?_gather_last (g : β → α) (bs : List β) (k : κ) :
    find? same k (gather same key default (fun b _ => g b) bs) =
      ((bs.filter fun b => same k (key b)).getLast?).map g := by
  rw [find?_gather hs]
  cases bs.filter (fun b => same k (key b)) using List.reverseRecOn with
  | nil => rfl
  | append_singleton bs b => simp

theorem sum_length_filter (key : β → κ) (bs : List β) :
    (((bs.map key).eraseDupsBy same).map fun k =>
      (bs.filter fun b => same k (key b)).length).sum = bs.length := by
  have hchange (k : κ) (es : List (κ × Nat)) :
      ((change same k 0 (· + 1) es).map (·.2)).sum = (es.map (·.2)).sum + 1 := by
    induction es with
    | nil => rfl
    | cons e es ih =>
      unfold change
      split
      · simp only [List.map_cons, List.sum_cons]
        omega
      · simp only [List.map_cons, List.sum_cons, ih]
        omega
  have hgather : ((gather same key 0 (fun _ => (· + 1)) bs).map (·.2)).sum = bs.length := by
    induction bs using List.reverseRecOn with
    | nil => rfl
    | append_singleton bs b ih =>
      rw [gather_concat, hchange, ih, List.length_append, List.length_singleton]
  have hcount (bs : List β) : bs.foldl (fun n _ => n + 1) 0 = bs.length := by
    induction bs using List.reverseRecOn with
    | nil => rfl
    | append_singleton bs b ih => simp [ih]
  rw [← hgather, gather_eq hs, List.map_map]
  exact congrArg List.sum (List.map_congr_left fun k _ => (hcount _).symm)

end Table
end NodeWalk
