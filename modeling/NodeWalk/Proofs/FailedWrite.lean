import NodeWalk.Proofs.WriteSite

set_option autoImplicit false

/-!
# Failed writes

A write that fails has changed nothing, with one exception: the notice of a write is
formed once the write is done, and a value that holds an integer of too many digits has
no text. Without such integers every failed write leaves the store as it was.
-/
namespace NodeWalk

/-- A condition on the scalars among the values. -/
def Value.Meets (P : Scalar → Prop) : Value → Prop
  | .scalar a => P a
  | .ref _ => True

instance {P : Scalar → Prop} [DecidablePred P] (v : Value) : Decidable (v.Meets P) :=
  match v with
  | .scalar a => inferInstanceAs (Decidable (P a))
  | .ref _ => inferInstanceAs (Decidable True)

theorem Scalar.writable_int_iff {n : Int} : (Scalar.int n).Writable ↔ Numeral.writable n = true :=
  ⟨fun h => h n rfl, fun h _ hm => Scalar.int.inj hm ▸ h⟩

instance : DecidablePred Scalar.Writable
  | .int _ => decidable_of_iff _ Scalar.writable_int_iff.symm
  | .null => .isTrue fun _ h => nomatch h
  | .bool _ => .isTrue fun _ h => nomatch h
  | .float _ => .isTrue fun _ h => nomatch h
  | .text _ => .isTrue fun _ h => nomatch h

theorem Scalar.Writable.shown? {a : Scalar} (h : a.Writable) : a.shown?.isSome = true := by
  cases a with
  | int n => simp [Scalar.shown?, Numeral.write?, h n rfl]
  | _ => rfl

namespace Unfolding

theorem isSome_shown?_array {items : List Unfolding} (h : ∀ t ∈ items, t.shown?.isSome = true) :
    (array items).shown?.isSome = true := by
  have hitems : (shownItems? items).isSome = true := by
    induction items with
    | nil => rfl
    | cons t ts ih =>
      obtain ⟨ht, hts⟩ := List.forall_mem_cons.1 h
      obtain ⟨text, htext⟩ := Option.isSome_iff_exists.1 ht
      obtain ⟨texts, htexts⟩ := Option.isSome_iff_exists.1 (ih hts)
      simp [shownItems?, htext, htexts]
  obtain ⟨texts, htexts⟩ := Option.isSome_iff_exists.1 hitems
  simp [shown?, htexts]

theorem isSome_shown?_object {entries : List (Text × Unfolding)}
    (h : ∀ e ∈ entries, e.2.shown?.isSome = true) : (object entries).shown?.isSome = true := by
  have hentries : (shownEntries? entries).isSome = true := by
    induction entries with
    | nil => rfl
    | cons e es ih =>
      obtain ⟨he, hes⟩ := List.forall_mem_cons.1 h
      obtain ⟨text, htext⟩ := Option.isSome_iff_exists.1 he
      obtain ⟨texts, htexts⟩ := Option.isSome_iff_exists.1 (ih hes)
      simp [shownEntries?, htext, htexts]
  obtain ⟨texts, htexts⟩ := Option.isSome_iff_exists.1 hentries
  simp [shown?, htexts]

end Unfolding

namespace Objects

abbrev Writable (h : Objects) (v : Value) : Prop := h.Every Scalar.Writable v

theorem every_iff {P : Scalar → Prop} {h : Objects} {v : Value} : h.Every P v ↔
    v.Meets P ∧ ∀ b ∈ h.reach v, ∀ x ∈ (h.cell b).values, x.Meets P := by
  constructor
  · intro hv
    refine ⟨?_, fun b hb x hx => ?_⟩
    · cases v with
      | scalar a => exact hv.self a rfl
      | ref a => trivial
    · cases x with
      | scalar a => exact hv.inside b hb a hx
      | ref a => trivial
  · rintro ⟨hself, hinside⟩
    refine ⟨?_, fun b hb a ha => hinside b hb _ ha⟩
    rintro a rfl
    exact hself

instance {P : Scalar → Prop} [DecidablePred P] (h : Objects) (v : Value) :
    Decidable (h.Every P v) := decidable_of_iff _ every_iff.symm

theorem isSome_shown?_unfoldIn {h : Objects} {v : Value} (hv : h.Writable v) (depth : Nat)
    (outer : List Addr) {x : Value} (hx : ∀ a, x = .scalar a → a.Writable)
    (hrefs : ∀ b ∈ x.refs, b ∈ h.reach v) : (h.unfoldIn depth outer x).shown?.isSome = true := by
  induction depth generalizing outer x with
  | zero =>
    cases x with
    | scalar a => exact (hx a rfl).shown?
    | ref a =>
      rw [unfoldIn]
      cases h.container a <;> rfl
  | succ depth ih =>
    cases x with
    | scalar a => exact (hx a rfl).shown?
    | ref a =>
      have ha : a ∈ h.reach v := hrefs a (List.mem_singleton.2 rfl)
      have inside {y : Value} (hy : y ∈ (h.cell a).values) :
          (h.unfoldIn depth (a :: outer) y).shown?.isSome = true :=
        ih (a :: outer) (fun b hb => hv.inside a ha b (hb ▸ hy)) fun b hb =>
          closed_reach h v a ha b (List.mem_flatMap.2 ⟨y, hy, hb⟩)
      rw [unfoldIn]
      cases outer.idxOf? a with
      | some i => cases h.container a <;> rfl
      | none =>
        cases hc : h.cell a with
        | array items =>
          rw [hc] at inside
          exact Unfolding.isSome_shown?_array (List.forall_mem_map.2 fun y hy => inside hy)
        | object entries =>
          rw [hc] at inside
          refine Unfolding.isSome_shown?_object (List.forall_mem_map.2 fun e he => ?_)
          exact inside (List.mem_map_of_mem he)

theorem isSome_shown?_of_writable {h : Objects} {v : Value} (hv : h.Writable v) :
    (h.shown? v).isSome = true :=
  isSome_shown?_unfoldIn hv _ [] hv.self fun _ hb => mem_reach_of_mem_refs hb

end Objects

namespace Document

theorem Site.every_write {P : Scalar → Prop} {h : Objects} {w : Value} (p : Site)
    (hw : h.Every P w) : (p.write w h).Every P w where
  self := hw.self
  inside b hb a ha := by
    obtain hold | rfl | ⟨c, -, hc⟩ := mem_values_write ha
    · rcases Nat.lt_or_ge b h.cells.size with hlt | hge
      · obtain hb | hb | hb := p.reach_write w w h b hb
        · exact hw.inside b hb a hold
        · exact hw.inside b hb a hold
        · omega
      · rw [Objects.cell_of_size_le hge] at hold
        cases hold
    · exact hw.self a rfl
    · cases hc

variable {s t : Store} {path w : Value} {f : Fault}

/-- The write that a path asks for is done, and the value has no text to report it with. -/
structure Unreported (s : Store) (path w : Value) (f : Fault) (t : Store) : Prop where
  fault : f = .integerTooLong
  written : ∃ text last tokens p, path = .text text ∧
    Pointer.tokens text = .ok (tokens ++ [last]) ∧
    site s.objects text last tokens s.root = .ok p ∧ t = s.withObjects (p.write w s.objects)
  silent : t.objects.shown? w = none

theorem unreported_of_set_error (h : (set path w).run s = (.error f, t)) :
    t = s ∨ Unreported s path w f t := by
  cases outcome_of_run_set h with
  | refused => exact .inl rfl
  | unreported pointer split place silent =>
    exact .inr ⟨rfl, ⟨_, _, _, _, pointer, split, place, rfl⟩, silent⟩

theorem set_eq_of_error (h : (set path w).run s = (.error f, t)) (hw : s.objects.Writable w) :
    t = s := by
  obtain rfl | ⟨-, ⟨text, last, tokens, p, -, -, -, rfl⟩, hsilent⟩ := unreported_of_set_error h
  · rfl
  · have hsome := Objects.isSome_shown?_of_writable (p.every_write hw)
    have hobjects : (s.withObjects (p.write w s.objects)).objects = p.write w s.objects := rfl
    rw [hobjects] at hsilent
    rw [hsilent] at hsome
    cases hsome

/-- A failed write leaves the store as it was, unless it was done and the value cannot be
reported; a value without an integer too long always can. -/
theorem set_failed_leaves (h : (set path w).run s = (.error f, t)) :
    (t = s ∨ Unreported s path w f t) ∧ (s.objects.Writable w → t = s) :=
  ⟨unreported_of_set_error h, set_eq_of_error h⟩

/-- A dash in the middle of a path is met after an array was walked into. -/
theorem set_failed_leaves_dash :
    let s : Store := ⟨⟨#[.array [.int 1], .object [("a", .ref 0)]], 1⟩, .ref 1, #[]⟩
    (set (.text "/a/-/c") (.ref 0)).run s =
        (.error (.path "/a/-/c" (.badIndex "-")), s) ∧
      s.objects.Writable (.ref 0) ∧ s = s := by
  intro s
  have htokens : Pointer.tokens "/a/-/c" =
      .ok ([Text.ofString "a", Text.ofString "-"] ++ [Text.ofString "c"]) := by cbv
  have hsite : site s.objects "/a/-/c" "c" ["a", "-"] s.root =
      .error (.path "/a/-/c" (.badIndex "-")) := rfl
  have hset : (set (.text "/a/-/c") (.ref 0)).run s =
      (.error (.path "/a/-/c" (.badIndex "-")), s) := by
    rw [run_set_place htokens, hsite]
    rfl
  have hw : s.objects.Writable (.ref 0) := by decide +kernel
  exact ⟨hset, hw, (set_failed_leaves hset).2 hw⟩

/-- One more than the last number that can be written: it is stored, and then it cannot be
reported. -/
theorem set_overlong_written :
    let last : Nat := Nat.pow 10 Numeral.maxDigits - 1
    let s : Store := ⟨⟨#[.object [("n", .int last)]], 1⟩, .ref 0, #[]⟩
    let h := s.objects.put 0 (.object [("n", .int (last + 1))])
    (set (.text "/n") (.int (last + 1))).run s = (.error .integerTooLong, s.withObjects h) ∧
      h.cell 0 ≠ s.objects.cell 0 := by
  intro last s h
  have htokens : Pointer.tokens "/n" = .ok ([] ++ [Text.ofString "n"]) := by cbv
  have hany (v : Value) : site ⟨#[.object [("n", v)]], 1⟩ "/n" "n" [] (.ref 0) =
      .ok ⟨0, .key "n", []⟩ := rfl
  have hsite : site s.objects "/n" "n" [] s.root = .ok ⟨0, .key "n", []⟩ := hany _
  have hwrite : Site.write ⟨0, .key "n", []⟩ (.int (last + 1)) s.objects = h := rfl
  have hshown : h.shown? (.int (last + 1)) = none := by decide +kernel
  refine ⟨?_, by decide +kernel⟩
  rw [run_set_place htokens, hsite]
  simp only [hwrite, hshown]

end Document
end NodeWalk
