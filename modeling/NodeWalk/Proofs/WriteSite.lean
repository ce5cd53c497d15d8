import NodeWalk.Proofs.Slots

set_option autoImplicit false

/-!
# The site of a write

Where a write takes place is settled before anything is written: an existing container,
a slot of it, and the objects that are missing from there on. Those come into being one
inside the other, so nothing can fail once the first of them is made, and the rest of
the objects stays as it was.
-/
namespace NodeWalk

namespace Objects

variable {h : Objects} {a : Addr}

@[simp] theorem append_nil (h : Objects) : h.append [] = h := by simp [append]

theorem append_append (h : Objects) (cs ds : List Cell) :
    (h.append cs).append ds = h.append (cs ++ ds) := by
  simp [append, Array.append_assoc]

theorem put_append (ha : a < h.cells.size) (c : Cell) (cs : List Cell) :
    (h.append cs).put a c = (h.put a c).append cs := by
  simp only [append, put, Array.setIfInBounds_append_left ha]

theorem put_append_last (h : Objects) (c d : Cell) :
    (h.append [c]).put h.cells.size d = h.append [d] := by
  have hset : (h.cells ++ #[c]).setIfInBounds h.cells.size d = h.cells ++ #[d] := by
    rw [Array.setIfInBounds_append_right (Nat.le_refl _), Nat.sub_self]
    rfl
  simp only [append, put, hset]

theorem put_put (h : Objects) (a : Addr) (c d : Cell) : (h.put a c).put a d = h.put a d := by
  simp [put]

theorem put_cell_self (h : Objects) (a : Addr) : h.put a (h.cell a) = h := by
  have hset : h.cells.setIfInBounds a (h.cell a) = h.cells := by
    apply Array.ext (by simp)
    intro i hi hi'
    rw [Array.getElem_setIfInBounds hi']
    split
    · subst a
      simp [cell, hi']
    · rfl
  simp only [put, hset]

theorem lt_size_of_object {entries : Entries Value} (hc : h.cell a = .object entries) :
    a < h.cells.size := by
  rcases Nat.lt_or_ge a h.cells.size with ha | ha
  · exact ha
  · rw [cell_of_size_le ha] at hc
    cases hc

end Objects

namespace Document

theorem run_descend (path token : Text) (a : Addr) (s : Store) :
    (descend path (.ref a) token).run s =
      match (s.objects.cell a).slot path token false with
      | .error f => (.error f.settled, s)
      | .ok p =>
        match (s.objects.cell a).at? p with
        | some v => (.ok v, s)
        | none => (.ok (.ref s.objects.cells.size), s.withObjects
            ((s.objects.append [.object []]).put a
              ((s.objects.cell a).write (.ref s.objects.cells.size) p))) := by
  have hfind : s.objects.find? (.ref a) = some (s.objects.cell a) := rfl
  unfold descend
  rw [run_bind_ok (StoreM.run_objects s), hfind]
  cases hc : s.objects.cell a with
  | object entries =>
    simp only [Cell.slot, Cell.at?]
    cases Entries.get? token entries with
    | some v => rfl
    | none =>
      rw [Objects.newObject_eq]
      rfl
  | array items =>
    simp only [Cell.slot]
    cases hi : index path items.length token false with
    | error f => rfl
    | ok i =>
      simp only [Except.map, Cell.at?_of_index hi]
      rw [run_bind_ok (StoreM.run_ofExcept_ok i s)]
      rfl

theorem run_assign (path token : Text) (a : Addr) (w : Value) (s : Store) :
    (assign path (.ref a) token w).run s =
      match (s.objects.cell a).slot path token true with
      | .error f => (.error f.settled, s)
      | .ok p => (.ok (), s.withObjects (s.objects.put a ((s.objects.cell a).write w p))) := by
  have hfind : s.objects.find? (.ref a) = some (s.objects.cell a) := rfl
  unfold assign
  rw [run_bind_ok (StoreM.run_objects s), hfind]
  cases hc : s.objects.cell a with
  | object entries => rfl
  | array items =>
    simp only [Cell.slot]
    cases hi : index path items.length token true <;> rfl

theorem place_cons (path : Text) (w : Value) {token : Text} {tokens : List Text} (v : Value)
    (h : tokens ≠ []) : place path w (token :: tokens) v =
      (do place path w tokens (← descend path v token)) := by
  cases tokens with
  | nil => exact absurd rfl h
  | cons next tokens => rfl

def front (w : Value) (base : Nat) : List Text → Value
  | [] => w
  | _ :: _ => .ref base

/-- Objects in new cells from `base` on, one inside the other, the value innermost. -/
def chain (w : Value) : Nat → List Text → List Cell
  | _, [] => []
  | base, token :: tokens =>
    .object [(token, front w (base + 1) tokens)] :: chain w (base + 1) tokens

theorem run_place_new (path : Text) (w : Value) (token : Text) (tokens : List Text)
    {h : Objects} {s : Store} (hs : s.objects = h.append [.object []]) :
    (place path w (token :: tokens) (.ref h.cells.size)).run s =
      (.ok (), s.withObjects (h.append (chain w h.cells.size (token :: tokens)))) := by
  induction tokens generalizing token h s with
  | nil =>
    have hrun := run_assign path token h.cells.size w s
    rw [hs, Objects.cell_append_self, ← hs] at hrun
    simp only [Cell.slot, Cell.write, Entries.set, hs, Objects.put_append_last] at hrun
    exact hrun
  | cons next tokens ih =>
    have hrun := run_descend path token h.cells.size s
    have hsize : s.objects.cells.size = h.cells.size + 1 := by
      rw [hs]
      exact Objects.size_append h _
    have hcell : s.objects.cell h.cells.size = .object [] := by
      rw [hs, Objects.cell_append_self]
    rw [hcell, hsize] at hrun
    simp only [Cell.slot, Cell.at?, Entries.get?] at hrun
    -- The object that was made holds the next one, and the next one is the last cell.
    have hobjects : (s.objects.append [.object []]).put h.cells.size
        ((Cell.object []).write (.ref (h.cells.size + 1)) (.key token)) =
          (h.append [.object [(token, .ref (h.cells.size + 1))]]).append [.object []] := by
      have hlt : h.cells.size < s.objects.cells.size := by omega
      rw [Objects.put_append hlt, hs, Objects.put_append_last]
      rfl
    rw [hobjects] at hrun
    rw [place_cons path w _ (List.cons_ne_nil next tokens), run_bind_ok hrun]
    have hnext : (h.append [.object [(token, .ref (h.cells.size + 1))]]).cells.size =
        h.cells.size + 1 := Objects.size_append h _
    have ih := ih next (s := s.withObjects
      ((h.append [.object [(token, .ref (h.cells.size + 1))]]).append [.object []])) rfl
    have hchain : (h.append [.object [(token, .ref (h.cells.size + 1))]]).append
        (chain w (h.cells.size + 1) (next :: tokens)) =
          h.append (chain w h.cells.size (token :: next :: tokens)) :=
      Objects.append_append h _ _
    rw [hnext, hchain] at ih
    exact ih

/-- The container that is written, the slot in it, and the tokens of what is missing. -/
structure Site where
  cell : Addr
  slot : Slot
  missing : List Text

def site (h : Objects) (path last : Text) : List Text → Value → Except Fault Site
  | _, .scalar _ => .error (.path path .throughScalar)
  | [], .ref a => ((h.cell a).slot path last true).map fun s => ⟨a, s, []⟩
  | token :: tokens, .ref a =>
    match (h.cell a).slot path token false with
    | .error f => .error f
    | .ok s =>
      match (h.cell a).at? s with
      | some v => site h path last tokens v
      | none => .ok ⟨a, s, tokens ++ [last]⟩

def Site.value (p : Site) (w : Value) (h : Objects) : Value := front w h.cells.size p.missing

def Site.write (p : Site) (w : Value) (h : Objects) : Objects :=
  (h.put p.cell ((h.cell p.cell).write (p.value w h) p.slot)).append
    (chain w h.cells.size p.missing)

theorem exists_object_of_at?_none {c : Cell} {path token : Text} {p : Slot}
    (hp : c.slot path token false = .ok p) (hv : c.at? p = none) :
    ∃ entries, c = .object entries := by
  cases c with
  | object entries => exact ⟨entries, rfl⟩
  | array items =>
    obtain ⟨i, rfl, hi⟩ := Cell.slot_array_ok_iff.1 hp
    cases hv.symm.trans (Cell.at?_of_index hi)

theorem run_place (path last : Text) (w : Value) (tokens : List Text) (v : Value) (s : Store) :
    (place path w (tokens ++ [last]) v).run s =
      match site s.objects path last tokens v with
      | .error f => (.error f.settled, s)
      | .ok p => (.ok (), s.withObjects (p.write w s.objects)) := by
  induction tokens generalizing v with
  | nil =>
    cases v with
    | scalar b => rfl
    | ref a =>
      rw [List.nil_append, place, run_assign, site]
      cases (s.objects.cell a).slot path last true with
      | error f => rfl
      | ok p => simp only [Except.map, Site.write, Site.value, front, chain, Objects.append_nil]
  | cons token tokens ih =>
    have hne : tokens ++ [last] ≠ [] := List.append_ne_nil_of_right_ne_nil _ (List.cons_ne_nil _ _)
    rw [List.cons_append, place_cons path w v hne]
    cases v with
    | scalar b => rfl
    | ref a =>
      have hrun := run_descend path token a s
      rw [site]
      cases hp : (s.objects.cell a).slot path token false with
      | error f =>
        rw [hp] at hrun
        rw [run_bind_error hrun]
      | ok p =>
        rw [hp] at hrun
        dsimp only at hrun ⊢
        cases hv : (s.objects.cell a).at? p with
        | some x =>
          rw [hv] at hrun
          rw [run_bind_ok hrun]
          exact ih x
        | none =>
          rw [hv] at hrun
          obtain ⟨entries, hc⟩ := exists_object_of_at?_none hp hv
          have ha := Objects.lt_size_of_object hc
          obtain ⟨c, hwrite⟩ : ∃ c, (s.objects.cell a).write (.ref s.objects.cells.size) p = c :=
            ⟨_, rfl⟩
          obtain ⟨next, rest, hrest⟩ := List.exists_cons_of_ne_nil hne
          rw [hwrite, Objects.put_append ha] at hrun
          have hnew := run_place_new path w next rest (h := s.objects.put a c)
            (s := s.withObjects ((s.objects.put a c).append [.object []])) rfl
          rw [Objects.size_put] at hnew
          rw [run_bind_ok hrun, hrest, hnew]
          simp only [Site.write, Site.value, front, hwrite]
          rfl

namespace Site

variable {p : Site} {h : Objects} {w x : Value} {a : Addr}

theorem size_write (p : Site) (w : Value) (h : Objects) :
    h.cells.size ≤ (p.write w h).cells.size := by
  rw [write, Objects.size_append, Objects.size_put]
  exact Nat.le_add_right _ _

theorem cell_write_of_ne (hne : p.cell ≠ a) (ha : a < h.cells.size) :
    (p.write w h).cell a = h.cell a := by
  rw [write, Objects.cell_append_of_lt (by rw [Objects.size_put]; exact ha),
    Objects.cell_put_of_ne hne]

theorem cell_write_self (ha : p.cell < h.cells.size) :
    (p.write w h).cell p.cell = (h.cell p.cell).write (p.value w h) p.slot := by
  rw [write, Objects.cell_append_of_lt (by rw [Objects.size_put]; exact ha),
    Objects.cell_put_self ha]

theorem cell_write_add {i : Nat} (hi : i < (chain w h.cells.size p.missing).length) :
    (p.write w h).cell (h.cells.size + i) = (chain w h.cells.size p.missing)[i] := by
  have hcell := Objects.cell_append_add (h := h.put p.cell ((h.cell p.cell).write (p.value w h)
    p.slot)) hi
  rwa [Objects.size_put] at hcell

theorem eq_or_ref_of_mem_chain {base : Nat} {tokens : List Text} {c : Cell}
    (hc : c ∈ chain w base tokens) (hx : x ∈ c.values) : x = w ∨ ∃ b, base ≤ b ∧ x = .ref b := by
  induction tokens generalizing base with
  | nil => cases hc
  | cons token tokens ih =>
    rcases List.mem_cons.1 hc with rfl | hc
    · obtain rfl := List.mem_singleton.1 hx
      cases tokens with
      | nil => exact .inl rfl
      | cons next tokens => exact .inr ⟨base + 1, Nat.le_succ base, rfl⟩
    · obtain hw | ⟨b, hb, he⟩ := ih hc
      · exact .inl hw
      · exact .inr ⟨b, Nat.le_of_succ_le hb, he⟩

theorem mem_values_write (hx : x ∈ ((p.write w h).cell a).values) :
    x ∈ (h.cell a).values ∨ x = w ∨ ∃ b, h.cells.size ≤ b ∧ x = .ref b := by
  have hvalue : p.value w h = w ∨ ∃ b, h.cells.size ≤ b ∧ p.value w h = .ref b := by
    unfold value
    cases p.missing with
    | nil => exact .inl rfl
    | cons token tokens => exact .inr ⟨h.cells.size, Nat.le_refl _, rfl⟩
  rcases Nat.lt_or_ge a h.cells.size with ha | ha
  · by_cases hne : p.cell = a
    · subst hne
      rw [cell_write_self ha] at hx
      exact Cell.forall_values_write (P := fun x => x ∈ (h.cell p.cell).values ∨ x = w ∨
        ∃ b, h.cells.size ≤ b ∧ x = .ref b) (fun _ h => .inl h) (.inr hvalue) p.slot x hx
    · rw [cell_write_of_ne hne ha] at hx
      exact .inl hx
  · obtain ⟨i, rfl⟩ := Nat.exists_eq_add_of_le ha
    by_cases hi : i < (chain w h.cells.size p.missing).length
    · rw [cell_write_add hi] at hx
      exact .inr (eq_or_ref_of_mem_chain (List.getElem_mem hi) hx)
    · have hsize : (p.write w h).cells.size ≤ h.cells.size + i := by
        rw [write, Objects.size_append, Objects.size_put]
        omega
      rw [Objects.cell_of_size_le hsize] at hx
      cases hx

theorem reach_write (p : Site) (w v : Value) (h : Objects) : ∀ a ∈ (p.write w h).reach v,
    a ∈ h.reach v ∨ a ∈ h.reach w ∨ h.cells.size ≤ a := by
  have hclosed : (p.write w h).Closed
      {a | a ∈ h.reach v ∨ a ∈ h.reach w ∨ h.cells.size ≤ a} := by
    intro a ha b hb
    obtain ⟨x, hx, hbx⟩ := List.mem_flatMap.1 hb
    obtain hold | rfl | ⟨c, hc, rfl⟩ := mem_values_write hx
    · have hb : b ∈ h.refsOf a := List.mem_flatMap.2 ⟨x, hold, hbx⟩
      obtain ha | ha | ha := ha
      · exact .inl (Objects.closed_reach h v a ha b hb)
      · exact .inr (.inl (Objects.closed_reach h w a ha b hb))
      · rw [Objects.refsOf_of_size_le ha] at hb
        cases hb
    · exact .inr (.inl (Objects.mem_reach_of_mem_refs hbx))
    · exact .inr (.inr (List.mem_singleton.1 hbx ▸ hc))
  exact Objects.reach_subset hclosed fun a ha => .inl (Objects.mem_reach_of_mem_refs ha)

end Site

def writeNotice (path text : Text) : Notice :=
  ⟨.debug, .document, "Set " ++ path ++ " = " ++ text, false⟩

theorem run_set_text (path : Text) (w : Value) (s : Store) :
    (set (.text path) w).run s =
      match Pointer.tokens path with
      | .error f => (.error f.settled, s)
      | .ok [] => (.ok (), { s with root := w })
      | .ok tokens =>
        match (place path w tokens s.root).run s with
        | (.error f, t) => (.error f, t)
        | (.ok _, t) =>
          match t.objects.shown? w with
          | some text => (.ok (), { t with log := t.log.push (writeNotice path text) })
          | none => (.error .integerTooLong, t) := by
  unfold set
  rw [run_bind_ok (StoreM.run_objects s), Pointer.ofValue,
    run_bind_ok (StoreM.run_ofExcept_ok path s)]
  cases Pointer.tokens path with
  | error f => rw [run_bind_error (StoreM.run_ofExcept_error f s)]
  | ok tokens =>
    rw [run_bind_ok (StoreM.run_ofExcept_ok tokens s)]
    cases tokens with
    | nil => rfl
    | cons token tokens =>
      dsimp only
      rw [run_bind_ok (StoreM.run_get s), run_bind]
      cases (place path w (token :: tokens) s.root).run s with
      | mk placed t =>
        cases placed with
        | error f => rfl
        | ok _ =>
          dsimp only
          rw [run_bind, StoreM.run_shown]
          cases t.objects.shown? w <;> rfl

theorem run_set_root {path : Text} (hpath : Pointer.tokens path = .ok []) (w : Value)
    (s : Store) : (set (.text path) w).run s = (.ok (), { s with root := w }) := by
  rw [run_set_text, hpath]

theorem run_set_place {path last : Text} {tokens : List Text}
    (hpath : Pointer.tokens path = .ok (tokens ++ [last])) (w : Value) (s : Store) :
    (set (.text path) w).run s =
      match site s.objects path last tokens s.root with
      | .error f => (.error f.settled, s)
      | .ok p =>
        match (p.write w s.objects).shown? w with
        | some text => (.ok (),
            { s.withObjects (p.write w s.objects) with log := s.log.push (writeNotice path text) })
        | none => (.error .integerTooLong, s.withObjects (p.write w s.objects)) := by
  obtain ⟨first, rest, hne⟩ := List.exists_cons_of_ne_nil
    (List.append_ne_nil_of_right_ne_nil tokens (List.cons_ne_nil last []))
  have hplace := run_place path last w tokens s.root s
  rw [hne] at hplace
  rw [run_set_text, hpath, hne]
  dsimp only
  rw [hplace]
  cases site s.objects path last tokens s.root <;> rfl

theorem run_set_malformed {path : Text} {f : Fault} (hpath : Pointer.tokens path = .error f)
    (w : Value) (s : Store) : (set (.text path) w).run s = (.error f.settled, s) := by
  rw [run_set_text, hpath]

theorem run_set_of_not_text {v : Value} (hv : ∀ path, v ≠ .text path) (w : Value) (s : Store) :
    ∃ f, (set v w).run s = (.error f, s) := by
  have hno : Pointer.ofValue s.objects v = .error (.lacks (s.objects.kind v) "startswith") := by
    unfold Pointer.ofValue
    split
    · exact absurd rfl (hv _)
    · rfl
  refine ⟨(Fault.lacks (s.objects.kind v) "startswith").settled, ?_⟩
  unfold set
  rw [run_bind_ok (StoreM.run_objects s), hno, run_bind_error (StoreM.run_ofExcept_error _ s)]

/-- How a write ends: it is refused and changes nothing, the document is replaced, or the
value is stored at a site and, if it has a text, reported. -/
inductive Outcome (path w : Value) (s : Store) : Except Fault Unit → Store → Prop where
  | refused (f : Fault) : Outcome path w s (.error f) s
  | replaced {text : Text} (pointer : path = .text text)
      (whole : Pointer.tokens text = .ok []) : Outcome path w s (.ok ()) { s with root := w }
  | stored {text last : Text} {shown : String} {tokens : List Text} {p : Site}
      (pointer : path = .text text) (split : Pointer.tokens text = .ok (tokens ++ [last]))
      (place : site s.objects text last tokens s.root = .ok p)
      (report : (p.write w s.objects).shown? w = some shown) :
    Outcome path w s (.ok ())
      { s.withObjects (p.write w s.objects) with log := s.log.push (writeNotice text shown) }
  | unreported {text last : Text} {tokens : List Text} {p : Site}
      (pointer : path = .text text) (split : Pointer.tokens text = .ok (tokens ++ [last]))
      (place : site s.objects text last tokens s.root = .ok p)
      (silent : (p.write w s.objects).shown? w = none) :
    Outcome path w s (.error .integerTooLong) (s.withObjects (p.write w s.objects))

theorem outcome_of_run_set {path w : Value} {s t : Store} {r : Except Fault Unit}
    (h : (set path w).run s = (r, t)) : Outcome path w s r t := by
  by_cases htext : ∃ text, path = .text text
  · obtain ⟨text, rfl⟩ := htext
    cases htokens : Pointer.tokens text with
    | error f =>
      rw [run_set_malformed htokens] at h
      cases h
      exact .refused _
    | ok tokens =>
      rcases List.eq_nil_or_concat tokens with rfl | ⟨init, last, rfl⟩
      · rw [run_set_root htokens] at h
        cases h
        exact .replaced rfl htokens
      · rw [List.concat_eq_append] at htokens
        rw [run_set_place htokens] at h
        cases hp : site s.objects text last init s.root with
        | error f =>
          rw [hp] at h
          cases h
          exact .refused _
        | ok p =>
          rw [hp] at h
          dsimp only at h
          cases hshown : (p.write w s.objects).shown? w with
          | none =>
            rw [hshown] at h
            cases h
            exact .unreported rfl htokens hp hshown
          | some shown =>
            rw [hshown] at h
            cases h
            exact .stored rfl htokens hp hshown
  · rw [not_exists] at htext
    obtain ⟨f, hf⟩ := run_set_of_not_text htext w s
    cases h.symm.trans hf
    exact .refused f

theorem exists_of_set_ok {path : Text} {w : Value} {s t : Store}
    (h : (set (.text path) w).run s = (.ok (), t)) :
    (Pointer.tokens path = .ok [] ∧ t.objects = s.objects ∧ t.root = w) ∨
    ∃ tokens last p, Pointer.tokens path = .ok (tokens ++ [last]) ∧
      site s.objects path last tokens s.root = .ok p ∧
      t.objects = p.write w s.objects ∧ t.root = s.root := by
  cases outcome_of_run_set h with
  | replaced pointer whole =>
    cases pointer
    exact .inl ⟨whole, rfl, rfl⟩
  | stored pointer split place =>
    cases pointer
    exact .inr ⟨_, _, _, split, place, rfl, rfl⟩

end Document
end NodeWalk
