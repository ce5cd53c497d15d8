import NodeWalk.Proofs.WrittenDocument

set_option autoImplicit false

/-!
# Texts that break off

Where writing stops, the containers around the place stay open. So what had been written is
not the text of a document: reading comes to its end inside of them, by induction on the tree.
-/
namespace NodeWalk

namespace Json

structure BreaksOff (read : Nat → List CodePoint → Except Stop (Json × List CodePoint))
    (cs : List Char) : Prop where
  begins : Begins (cs.map .char)
  fails : ∀ fuel r, 2 * cs.length ≤ fuel → read fuel (cs.map .char) ≠ .ok r
  plain : ∀ c ∈ cs, Plain c

section

variable {cs body : List Char} {j : Json} {depth fuel : Nat}

theorem breaksOff_nil : BreaksOff readValue [] where
  begins := fun _ hc => nomatch hc
  fails fuel r _ h := by
    cases fuel with
    | zero => cases h
    | succ fuel => cases h
  plain := List.forall_mem_nil _

theorem readItems_ne_ok {cs : List CodePoint} (h : ∀ r, readValue fuel cs ≠ .ok r)
    {done : List Json} {r : Json × List CodePoint} : readItems (fuel + 1) done cs ≠ .ok r := by
  intro hread
  rw [readItems] at hread
  obtain ⟨p, hp, -⟩ := bind_ok_iff.1 hread
  exact h p hp

theorem BreaksOff.item (h : BreaksOff readValue cs) (done : List Json) :
    BreaksOff (fun fuel => readItems (fuel + 1) done) cs where
  begins := h.begins
  fails fuel _ hfuel := readItems_ne_ok fun r => h.fails fuel r hfuel
  plain := h.plain

theorem breaksOff_item_end (hread : ReadAs cs j) (hcs : ∀ c ∈ cs, Plain c) (done : List Json) :
    BreaksOff (fun fuel => readItems (fuel + 1) done) cs where
  begins := by
    have hbegins := hread.begins []
    rwa [List.append_nil] at hbegins
  fails fuel r hfuel h := by
    have hvalue := hread fuel [] (fun _ hc => nomatch hc) hfuel
    rw [List.append_nil] at hvalue
    simp only [readItems, hvalue, bind, Except.bind] at h
    cases h
  plain := hcs

theorem breaksOff_item_comma (depth : Nat) (hread : ReadAs cs j) (hcs : ∀ c ∈ cs, Plain c)
    (h : ∀ done, BreaksOff (fun fuel => readItems (fuel + 1) done) body) (done : List Json) :
    BreaksOff (fun fuel => readItems (fuel + 1) done) (cs ++ ',' :: (line depth ++ body)) where
  begins := by
    rw [List.map_append]
    exact hread.begins _
  fails fuel r hfuel := by
    simp only [List.length_append, List.length_cons] at hfuel
    obtain _ | fuel := fuel
    · omega
    have hcomma := hread (fuel + 1) (.char ',' :: ((line depth).map .char ++ body.map .char))
      ends_comma (by omega)
    rw [List.map_append, List.map_cons, List.map_append]
    rw [readItems_comma hcomma rfl, skipSpace_line_of_begins (h []).begins]
    exact (h (j :: done)).fails fuel r (by omega)
  plain := List.forall_mem_append.2 ⟨hcs, plain_onLine depth (by decide) (h []).plain⟩

theorem BreaksOff.array (depth : Nat)
    (h : BreaksOff (fun fuel => readItems (fuel + 1) []) body) :
    BreaksOff readValue ('[' :: (line depth ++ body)) where
  begins := by
    rintro _ ⟨⟩
    decide
  fails fuel r hfuel := by
    simp only [List.length_cons, List.length_append, line] at hfuel
    obtain _ | _ | fuel := fuel
    · omega
    · omega
    rw [List.map_cons, List.map_append]
    simp only [readValue, skipSpace_line_of_begins h.begins]
    split
    · rename_i heq
      exact absurd rfl (h.begins _ (congrArg List.head? heq)).2.1
    · exact h.fails fuel r (by omega)
  plain := plain_onLine depth (by decide) h.plain

theorem BreaksOff.member (h : BreaksOff readValue cs) (k : Text)
    (done : List (Text × Json)) :
    BreaksOff (fun fuel => readMembers (fuel + 1) done) (keyText k ++ cs) where
  begins := by
    rw [List.map_append]
    exact begins_keyText k
  fails fuel r hfuel hread := by
    have hcolon : skipSpace (.char ':' :: .char ' ' :: cs.map .char) =
        .char ':' :: .char ' ' :: cs.map .char := rfl
    simp only [readMembers, keyText, List.map_cons, List.map_append, List.cons_append,
      List.append_assoc, List.nil_append, readText_keyText, bind, Except.bind, hcolon,
      skipSpace_space_of_begins h.begins] at hread
    rw [List.length_append] at hfuel
    cases hvalue : readValue fuel (cs.map .char) with
    | ok p => exact h.fails fuel p (by omega) hvalue
    | error e =>
      rw [hvalue] at hread
      cases hread
  plain := List.forall_mem_append.2 ⟨plain_keyText k, h.plain⟩

theorem breaksOff_member_comma (depth : Nat) (k : Text) (hread : ReadAs cs j)
    (hcs : ∀ c ∈ cs, Plain c)
    (h : ∀ done, BreaksOff (fun fuel => readMembers (fuel + 1) done) body)
    (done : List (Text × Json)) :
    BreaksOff (fun fuel => readMembers (fuel + 1) done)
      (keyText k ++ (cs ++ ',' :: (line depth ++ body))) where
  begins := by
    rw [List.map_append]
    exact begins_keyText k
  fails fuel r hfuel := by
    simp only [List.length_append, List.length_cons] at hfuel
    obtain _ | fuel := fuel
    · omega
    have hcomma := hread (fuel + 1) (.char ',' :: ((line depth).map .char ++ body.map .char))
      ends_comma (by omega)
    rw [List.map_append, List.map_append, List.map_cons, List.map_append]
    rw [readMembers_comma k (skipSpace_space_of_begins (hread.begins _)) hcomma rfl,
      skipSpace_line_of_begins (h []).begins]
    exact (h ((k.joined, j) :: done)).fails fuel r (by omega)
  plain := List.forall_mem_append.2 ⟨plain_keyText k,
    List.forall_mem_append.2 ⟨hcs, plain_onLine depth (by decide) (h []).plain⟩⟩

theorem BreaksOff.object (depth : Nat)
    (h : BreaksOff (fun fuel => readMembers (fuel + 1) []) body) :
    BreaksOff readValue ('\x7b' :: (line depth ++ body)) where
  begins := by
    rintro _ ⟨⟩
    decide
  fails fuel r hfuel := by
    simp only [List.length_cons, List.length_append, line] at hfuel
    obtain _ | _ | fuel := fuel
    · omega
    · omega
    rw [List.map_cons, List.map_append]
    simp only [readValue, skipSpace_line_of_begins h.begins]
    split
    · rename_i heq
      exact absurd rfl (h.begins _ (congrArg List.head? heq)).2.2
    · exact h.fails fuel r (by omega)
  plain := plain_onLine depth (by decide) h.plain

theorem BreaksOff.read_ne_ok (h : BreaksOff readValue cs) (j : Json) :
    read (cs.map .char) ≠ .ok j := by
  have hwhole : readWhole (cs.map .char) ≠ .ok j := by
    intro hread
    rw [readWhole, skipSpace_of_begins h.begins] at hread
    obtain ⟨p, hp, -⟩ := bind_ok_iff.1 hread
    exact h.fails _ p (by rw [List.length_map]; omega) hp
  intro hread
  unfold read at hread
  split at hread
  · cases hread
  · cases hw : readWhole (cs.map .char) with
    | ok k =>
      rw [hw] at hread
      cases hread
      exact hwhole hw
    | error e =>
      rw [hw] at hread
      cases hread

end

end Json

namespace Unfolding

open Json (BreaksOff readValue readItems readMembers keyText line)

/-- Where writing the value stops, a piece that breaks off has been appended to the text, or
nothing at all. -/
def Stops (t : Unfolding) : Prop :=
  ∀ (depth : Nat) (out lead : String) (b : Broken), writeAt depth out lead t = .error b →
    b.written = out ∨
      ∃ cs, BreaksOff readValue cs ∧ b.written.toList = out.toList ++ (lead.toList ++ cs)

theorem Stops.piece {t : Unfolding} (ht : t.Stops) {depth : Nat} {out : String} {b : Broken}
    (h : writeAt depth out "" t = .error b) :
    ∃ cs, BreaksOff readValue cs ∧ b.written.toList = out.toList ++ cs := by
  obtain hout | ⟨cs, hcs, hwritten⟩ := ht _ _ _ _ h
  · exact ⟨[], Json.breaksOff_nil, by rw [hout, List.append_nil]⟩
  · exact ⟨cs, hcs, hwritten⟩

theorem stops_items {ts : List Unfolding} (happends : ∀ t ∈ ts, t.Appends)
    (hstops : ∀ t ∈ ts, t.Stops) {depth : Nat} {out : String} {b : Broken}
    (h : writeItems depth out ts = .error b) : b.written = out ∨
      ∃ body, (∀ done, BreaksOff (fun fuel => readItems (fuel + 1) done) body) ∧
        b.written.toList = out.toList ++ ',' :: (line depth ++ body) := by
  induction ts generalizing out with
  | nil => cases h
  | cons t ts ih =>
    obtain ⟨ht, happends⟩ := List.forall_mem_cons.1 happends
    obtain ⟨ht', hstops⟩ := List.forall_mem_cons.1 hstops
    obtain hfirst | ⟨out₁, hfirst, hbehind⟩ := bind_error_iff.1 h
    · obtain hout | ⟨cs, hcs, hwritten⟩ := ht' _ _ _ _ hfirst
      · exact .inl hout
      · refine .inr ⟨cs, hcs.item, ?_⟩
        rw [hwritten, String.toList_append, toList_newLine, List.append_assoc]
        rfl
    · obtain ⟨j, cs, hpiece, hout₁⟩ := ht _ _ _ _ hfirst
      rw [String.toList_append, toList_newLine, List.append_assoc] at hout₁
      obtain hout | ⟨body, hbody, hwritten⟩ := ih happends hstops hbehind
      · refine .inr ⟨cs, Json.breaksOff_item_end hpiece.read hpiece.plain, ?_⟩
        rw [hout, hout₁]
        rfl
      · refine .inr ⟨_, Json.breaksOff_item_comma depth hpiece.read hpiece.plain hbody, ?_⟩
        rw [hwritten, hout₁]
        simp

theorem stops_members {es : List (Text × Unfolding)} (happends : ∀ e ∈ es, e.2.Appends)
    (hstops : ∀ e ∈ es, e.2.Stops) {depth : Nat} {out : String} {b : Broken}
    (h : writeMembers depth out es = .error b) :
    ∃ body, (∀ done, BreaksOff (fun fuel => readMembers (fuel + 1) done) body) ∧
      b.written.toList = out.toList ++ ',' :: (line depth ++ body) := by
  induction es generalizing out with
  | nil => cases h
  | cons e es ih =>
    obtain ⟨k, t⟩ := e
    obtain ⟨ht, happends⟩ := List.forall_mem_cons.1 happends
    obtain ⟨ht', hstops⟩ := List.forall_mem_cons.1 hstops
    obtain hfirst | ⟨out₁, hfirst, hbehind⟩ := bind_error_iff.1 h
    · obtain ⟨cs, hcs, hwritten⟩ := ht'.piece hfirst
      refine ⟨keyText k ++ cs, hcs.member k, ?_⟩
      rw [hwritten]
      simp [keyText, Json.escaped, toList_newLine]
    · obtain ⟨j, cs, hpiece, hout₁⟩ := ht _ _ _ _ hfirst
      obtain ⟨body, hbody, hwritten⟩ := ih happends hstops hbehind
      refine ⟨_, Json.breaksOff_member_comma depth k hpiece.read hpiece.plain hbody, ?_⟩
      rw [hwritten, hout₁]
      simp [keyText, Json.escaped, toList_newLine]

theorem stops_array {ts : List Unfolding} (happends : ∀ t ∈ ts, t.Appends)
    (hstops : ∀ t ∈ ts, t.Stops) : (array ts).Stops := by
  intro depth out lead b h
  cases ts with
  | nil => cases h
  | cons t ts =>
    obtain ⟨ht, happends⟩ := List.forall_mem_cons.1 happends
    obtain ⟨ht', hstops⟩ := List.forall_mem_cons.1 hstops
    refine .inr ?_
    obtain hfirst | ⟨out₁, hfirst, hbehind⟩ := bind_error_iff.1 h
    · obtain hout | ⟨cs, hcs, hwritten⟩ := ht' _ _ _ _ hfirst
      · exact ⟨[], Json.breaksOff_nil, by rw [hout, String.toList_append, List.append_nil]⟩
      · refine ⟨_, (hcs.item []).array (depth + 1), ?_⟩
        rw [hwritten]
        simp [toList_newLine]
    · obtain ⟨j, cs, hpiece, hout₁⟩ := ht _ _ _ _ hfirst
      obtain hitems | ⟨out₂, -, hend⟩ := bind_error_iff.1 hbehind
      · obtain hout | ⟨body, hbody, hwritten⟩ := stops_items happends hstops hitems
        · refine ⟨_, (Json.breaksOff_item_end hpiece.read hpiece.plain []).array (depth + 1), ?_⟩
          rw [hout, hout₁]
          simp [toList_newLine]
        · refine ⟨_, (Json.breaksOff_item_comma (depth + 1) hpiece.read hpiece.plain hbody
            []).array (depth + 1), ?_⟩
          rw [hwritten, hout₁]
          simp [toList_newLine]
      · cases hend

theorem stops_object {es : List (Text × Unfolding)} (happends : ∀ e ∈ es, e.2.Appends)
    (hstops : ∀ e ∈ es, e.2.Stops) : (object es).Stops := by
  intro depth out lead b h
  cases es with
  | nil => cases h
  | cons e es =>
    obtain ⟨k, t⟩ := e
    obtain ⟨ht, happends⟩ := List.forall_mem_cons.1 happends
    obtain ⟨ht', hstops⟩ := List.forall_mem_cons.1 hstops
    refine .inr ?_
    obtain hfirst | ⟨out₁, hfirst, hbehind⟩ := bind_error_iff.1 h
    · obtain ⟨cs, hcs, hwritten⟩ := ht'.piece hfirst
      refine ⟨_, (hcs.member k []).object (depth + 1), ?_⟩
      rw [hwritten]
      simp [keyText, Json.escaped, toList_newLine]
    · obtain ⟨j, cs, hpiece, hout₁⟩ := ht _ _ _ _ hfirst
      obtain hmembers | ⟨out₂, -, hend⟩ := bind_error_iff.1 hbehind
      · obtain ⟨body, hbody, hwritten⟩ := stops_members happends hstops hmembers
        refine ⟨_, (Json.breaksOff_member_comma (depth + 1) k hpiece.read hpiece.plain hbody
          []).object (depth + 1), ?_⟩
        rw [hwritten, hout₁]
        simp [keyText, Json.escaped, toList_newLine]
      · cases hend

theorem Distinct.stops {t : Unfolding} (ht : t.Distinct) : t.Stops := by
  induction ht with
  | scalar a =>
    intro depth out lead b h
    rw [writeAt] at h
    split at h
    · cases h
    · cases h
      exact .inl rfl
  | back which up =>
    intro depth out lead b h
    cases h
    refine .inr ⟨[], Json.breaksOff_nil, ?_⟩
    rw [String.toList_append, List.append_nil]
  | array h ih => exact stops_array (fun t ht => (h t ht).appends) ih
  | object _ h ih => exact stops_object (fun e he => (h e he).appends) ih

/-- What has been written of a document, when writing it stops, is not a text of one. -/
theorem read_written {t : Unfolding} (ht : t.Distinct) {b : Broken} (h : t.write = .error b) :
    (∀ j, Json.read (b.written.toList.map .char) ≠ .ok j) ∧
      ∀ c ∈ b.written.toList, Json.Plain c := by
  obtain ⟨cs, hcs, hwritten⟩ := ht.stops.piece h
  rw [String.toList_empty, List.nil_append] at hwritten
  rw [hwritten]
  exact ⟨hcs.read_ne_ok, hcs.plain⟩

end Unfolding
end NodeWalk
