import Mathlib.Data.List.Basic
import Mathlib.Data.Set.Function
import NodeWalk.Value.Reach

set_option autoImplicit false

/-!
# What a value reaches

`reach` has rounds enough to find every cell that a value leads to: its result is
closed under references and lies in every closed set that holds the value. The
relation `Closes` is the search without a bound on its rounds, so it says the same
in stores of different sizes.
-/
namespace NodeWalk.Objects

variable {h : Objects} {seen as fr out : List Addr}

def Closed (h : Objects) (s : Set Addr) : Prop := ∀ a ∈ s, ∀ b ∈ h.refsOf a, b ∈ s

theorem mem_foldl_newcomers (seen : List Addr) (as found : List Addr) (a : Addr) :
    a ∈ as.foldl (fun found a => if a ∈ seen ∨ a ∈ found then found else found ++ [a]) found ↔
      a ∈ found ∨ (a ∈ as ∧ a ∉ seen) := by
  induction as generalizing found with
  | nil => simp
  | cons b as ih =>
    rw [List.foldl_cons, ih]
    by_cases hb : b ∈ seen ∨ b ∈ found
    · rw [if_pos hb, List.mem_cons]
      constructor
      · rintro (h | ⟨h, hs⟩)
        · exact .inl h
        · exact .inr ⟨.inr h, hs⟩
      · rintro (h | ⟨rfl | h, hs⟩)
        · exact .inl h
        · exact .inl (hb.resolve_left hs)
        · exact .inr ⟨h, hs⟩
    · rw [if_neg hb, List.mem_cons, List.mem_append, List.mem_singleton]
      rw [not_or] at hb
      constructor
      · rintro ((h | rfl) | ⟨h, hs⟩)
        · exact .inl h
        · exact .inr ⟨.inl rfl, hb.1⟩
        · exact .inr ⟨.inr h, hs⟩
      · rintro (h | ⟨rfl | h, hs⟩)
        · exact .inl (.inl h)
        · exact .inl (.inr rfl)
        · exact .inr ⟨h, hs⟩

theorem mem_newcomers {a : Addr} : a ∈ newcomers seen as ↔ a ∈ as ∧ a ∉ seen := by
  rw [newcomers, mem_foldl_newcomers]
  simp

theorem nodup_newcomers (seen as : List Addr) : (newcomers seen as).Nodup := by
  have hf (found : List Addr) (h : found.Nodup) : (as.foldl
      (fun found a => if a ∈ seen ∨ a ∈ found then found else found ++ [a]) found).Nodup := by
    induction as generalizing found with
    | nil => exact h
    | cons b as ih =>
      rw [List.foldl_cons]
      by_cases hb : b ∈ seen ∨ b ∈ found
      · rw [if_pos hb]
        exact ih found h
      · rw [if_neg hb]
        refine ih _ (List.nodup_append.2 ⟨h, by simp, fun x hx y hy => ?_⟩)
        rw [List.mem_singleton] at hy
        rintro rfl
        exact hb (.inr (hy ▸ hx))
  exact hf [] List.nodup_nil

theorem newcomers_nil_of_subset (hs : ∀ a ∈ as, a ∈ seen) : newcomers seen as = [] := by
  rw [List.eq_nil_iff_forall_not_mem]
  intro a ha
  obtain ⟨hm, hn⟩ := mem_newcomers.1 ha
  exact hn (hs a hm)

def found (h : Objects) (fr seen : List Addr) : List Addr := newcomers seen (fr.flatMap h.refsOf)

inductive Closes (h : Objects) : List Addr → List Addr → List Addr → Prop where
  | done (seen : List Addr) : Closes h [] seen seen
  | round {a : Addr} {fr seen out : List Addr}
      (rest : Closes h (h.found (a :: fr) seen) (seen ++ h.found (a :: fr) seen) out) :
      Closes h (a :: fr) seen out

theorem Closes.unique {out' : List Addr} (hc : Closes h fr seen out)
    (hc' : Closes h fr seen out') : out = out' := by
  induction hc with
  | done _ => cases hc'; rfl
  | round _ ih =>
    cases hc' with
    | round rest => exact ih rest

theorem Closes.subset (hc : Closes h fr seen out) : ∀ a ∈ seen, a ∈ out := by
  induction hc with
  | done _ => exact fun a ha => ha
  | round _ ih => exact fun a ha => ih a (List.mem_append_left _ ha)

theorem Closes.closed (hc : Closes h fr seen out)
    (hs : ∀ a ∈ seen, a ∉ fr → ∀ b ∈ h.refsOf a, b ∈ seen) : h.Closed {a | a ∈ out} := by
  induction hc with
  | done seen => exact fun a ha => hs a ha List.not_mem_nil
  | @round c fr seen out _ ih =>
    refine ih fun a ha hf b hb => ?_
    have hseen : a ∈ seen := (List.mem_append.1 ha).resolve_right hf
    by_cases hfr : a ∈ c :: fr
    · by_cases hbs : b ∈ seen
      · exact List.mem_append_left _ hbs
      · exact List.mem_append_right _
          (mem_newcomers.2 ⟨List.mem_flatMap.2 ⟨a, hfr, hb⟩, hbs⟩)
    · exact List.mem_append_left _ (hs a hseen hfr b hb)

theorem Closes.subset_of_closed {s : Set Addr} (hc : Closes h fr seen out) (hs : h.Closed s)
    (hfr : ∀ a ∈ fr, a ∈ s) (hseen : ∀ a ∈ seen, a ∈ s) : ∀ a ∈ out, a ∈ s := by
  induction hc with
  | done _ => exact hseen
  | @round c fr seen _ _ ih =>
    have hf : ∀ a ∈ h.found (c :: fr) seen, a ∈ s := by
      intro a ha
      obtain ⟨b, hb, hab⟩ := List.mem_flatMap.1 (mem_newcomers.1 ha).1
      exact hs b (hfr b hb) a hab
    refine ih hf fun a ha => ?_
    rcases List.mem_append.1 ha with ha | ha
    · exact hseen a ha
    · exact hf a ha

theorem Closes.nodup (hc : Closes h fr seen out) (hs : seen.Nodup) : out.Nodup := by
  induction hc with
  | done _ => exact hs
  | @round c fr seen _ _ ih =>
    refine ih (List.nodup_append.2 ⟨hs, nodup_newcomers _ _, fun a ha b hb hab => ?_⟩)
    exact (mem_newcomers.1 hb).2 (hab ▸ ha)

def unseen (h : Objects) (seen : List Addr) : List Addr :=
  (List.range h.cells.size).filter (· ∉ seen)

@[simp] theorem closure_nil (h : Objects) (rounds : Nat) (seen : List Addr) :
    closure h rounds [] seen = seen := by
  cases rounds <;> rfl

theorem closure_cons (h : Objects) (rounds : Nat) (a : Addr) (fr seen : List Addr) :
    closure h (rounds + 1) (a :: fr) seen =
      closure h rounds (h.found (a :: fr) seen) (seen ++ h.found (a :: fr) seen) := rfl

theorem cell_of_size_le {a : Addr} (ha : h.cells.size ≤ a) : h.cell a = .array [] := by
  simp [cell, ha]

theorem refsOf_of_size_le {a : Addr} (ha : h.cells.size ≤ a) : h.refsOf a = [] := by
  rw [refsOf, cell_of_size_le ha]
  rfl

theorem length_unseen_lt {a : Addr} (hs : ∀ b ∈ seen, b ∈ out) (ha : a < h.cells.size)
    (hn : a ∉ seen) (ho : a ∈ out) : (h.unseen out).length < (h.unseen seen).length := by
  have hsub : (h.unseen out).Sublist ((h.unseen seen).filter (· ∉ out)) := by
    unfold unseen
    rw [List.filter_filter]
    refine List.monotone_filter_right _ fun b hb => ?_
    simp only [decide_eq_true_eq, Bool.and_eq_true] at hb ⊢
    exact ⟨hb, fun h => hb (hs b h)⟩
  refine Nat.lt_of_le_of_lt hsub.length_le (List.length_filter_lt_length_iff_exists.2 ⟨a, ?_, ?_⟩)
  · simp [unseen, ha, hn]
  · simp [ho]

theorem closes_closure {rounds : Nat} (hr : (h.unseen seen).length + 2 ≤ rounds) :
    Closes h fr seen (closure h rounds fr seen) := by
  induction rounds generalizing fr seen with
  | zero => omega
  | succ rounds ih =>
    cases fr with
    | nil =>
      rw [closure_nil]
      exact .done seen
    | cons c fr =>
      rw [closure_cons]
      refine .round ?_
      by_cases hf : ∃ a ∈ h.found (c :: fr) seen, a < h.cells.size
      · obtain ⟨a, ha, hlt⟩ := hf
        have := length_unseen_lt (fun b hb => List.mem_append_left _ hb) hlt
          (mem_newcomers.1 ha).2 (List.mem_append_right seen ha)
        exact ih (by omega)
      · -- Only numbers without a cell were found, and they refer to nothing.
        have hnone : ∀ a ∈ h.found (c :: fr) seen, h.refsOf a = [] := fun a ha =>
          refsOf_of_size_le (Nat.le_of_not_lt fun hlt => hf ⟨a, ha, hlt⟩)
        obtain ⟨rounds, rfl⟩ : ∃ r, rounds = r + 1 := ⟨rounds - 1, by omega⟩
        cases hfound : h.found (c :: fr) seen with
        | nil =>
          rw [closure_nil]
          exact .done _
        | cons b found =>
          have hnil : newcomers (seen ++ b :: found) ((b :: found).flatMap h.refsOf) = [] := by
            refine newcomers_nil_of_subset fun a ha => ?_
            obtain ⟨d, hd, had⟩ := List.mem_flatMap.1 ha
            rw [hnone d (hfound ▸ hd)] at had
            cases had
          rw [closure_cons]
          refine .round ?_
          rw [Objects.found, hnil, List.append_nil, closure_nil]
          exact .done _

theorem closes_reach (h : Objects) (v : Value) : Closes h v.refs v.refs (h.reach v) := by
  refine closes_closure ?_
  have hle := (List.length_filter_le (fun a => decide (a ∉ v.refs)) (List.range h.cells.size))
  rw [List.length_range] at hle
  exact Nat.add_le_add_right hle 2

theorem mem_reach_of_mem_refs {v : Value} {a : Addr} (ha : a ∈ v.refs) : a ∈ h.reach v :=
  (closes_reach h v).subset a ha

theorem closed_reach (h : Objects) (v : Value) : h.Closed {a | a ∈ h.reach v} :=
  (closes_reach h v).closed fun _ ha hn => absurd ha hn

theorem reach_subset {v : Value} {s : Set Addr} (hs : h.Closed s) (hv : ∀ a ∈ v.refs, a ∈ s) :
    ∀ a ∈ h.reach v, a ∈ s :=
  (closes_reach h v).subset_of_closed hs hv hv

theorem nodup_reach (h : Objects) (v : Value) : (h.reach v).Nodup := by
  refine (closes_reach h v).nodup ?_
  cases v <;> simp [Value.refs]

end NodeWalk.Objects
