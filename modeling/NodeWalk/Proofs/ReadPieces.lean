import NodeWalk.Proofs.WrittenNumber
import NodeWalk.Proofs.WrittenText

set_option autoImplicit false

/-!
# Pieces of documents

`ReadAs` says of a piece of text that it is read as a value, whatever follows it. The
scalars as they are written are such pieces, and so are an array and an object with pieces
for their parts: the parts are read one after another, with one call fewer left for each.
-/
namespace NodeWalk

def Scalar.reread : Scalar → Scalar
  | .text s => .text s.joined
  | a => a.readBack

theorem Scalar.reread_of_not_text {a : Scalar} (h : ∀ s, a ≠ .text s) : a.reread = a.readBack := by
  cases a with
  | text s => exact absurd rfl (h s)
  | _ => rfl

namespace Json

/-- Reading finds the value at the front, whatever follows behind it. -/
def ReadAs (cs : List Char) (j : Json) : Prop :=
  ∀ (fuel : Nat) (rest : List CodePoint), Ends rest → 2 * cs.length ≤ fuel →
    readValue fuel (cs.map .char ++ rest) = .ok (j, rest)

def line (depth : Nat) : List Char := '\n' :: List.replicate (2 * depth) ' '

section

variable {cs rest : List CodePoint} {j : Json} {fuel depth : Nat}

theorem ends_line : Ends ((line depth).map .char ++ rest) := by
  rintro c ⟨⟩
  exact .inr rfl

theorem ends_comma : Ends (.char ',' :: rest) := by
  rintro c ⟨⟩
  exact .inl rfl

theorem skipSpace_line_append :
    skipSpace ((line depth).map .char ++ cs) = skipSpace cs := by
  have hline : ∀ a ∈ (line depth).map CodePoint.char, isSpace a = true :=
    List.forall_mem_map.2
      (List.forall_mem_cons.2 ⟨rfl, fun a ha => List.eq_of_mem_replicate ha ▸ rfl⟩)
  rw [skipSpace, List.dropWhile_append_of_pos hline, skipSpace]

theorem skipSpace_line {c : CodePoint} (hc : isSpace c = false) :
    skipSpace ((line depth).map .char ++ c :: cs) = c :: cs := by
  rw [skipSpace_line_append, skipSpace, List.dropWhile_cons_of_neg]
  simp [hc]

theorem head_of_readValue (h : readValue fuel cs = .ok (j, rest)) :
    ∃ c behind, cs = c :: behind ∧ isSpace c = false ∧ c ≠ .char ']' ∧ c ≠ .char '\x7d' := by
  obtain _ | fuel := fuel
  · cases h
  obtain _ | ⟨c, cs⟩ := cs
  · cases h
  refine ⟨c, cs, rfl, ?_, ?_, ?_⟩
  · by_contra hspace
    rw [Bool.not_eq_false, isSpace, Bool.or_eq_true] at hspace
    simp only [Bool.or_eq_true, decide_eq_true_iff] at hspace
    obtain ((rfl | rfl) | rfl) | rfl := hspace <;> cases h
  · rintro rfl
    cases h
  · rintro rfl
    cases h

theorem ReadAs.exists_cons {cs : List Char} (h : ReadAs cs j) :
    ∃ c behind, cs.map .char = c :: behind ∧ isSpace c = false ∧ c ≠ .char ']' ∧
      c ≠ .char '\x7d' := by
  have hread := h (2 * cs.length) [] (fun _ hc => nomatch hc) (Nat.le_refl _)
  rw [List.append_nil] at hread
  exact head_of_readValue hread

def Begins (cs : List CodePoint) : Prop :=
  ∀ c ∈ cs.head?, isSpace c = false ∧ c ≠ .char ']' ∧ c ≠ .char '\x7d'

theorem skipSpace_of_begins (h : Begins cs) : skipSpace cs = cs := by
  cases cs with
  | nil => rfl
  | cons c cs =>
    have hc := (h c rfl).1
    exact List.dropWhile_cons_of_neg (by simp [hc])

theorem skipSpace_line_of_begins (h : Begins cs) :
    skipSpace ((line depth).map .char ++ cs) = cs := by
  rw [skipSpace_line_append, skipSpace_of_begins h]

theorem skipSpace_space_of_begins (h : Begins cs) : skipSpace (.char ' ' :: cs) = cs := by
  rw [skipSpace, List.dropWhile_cons_of_pos (by decide)]
  exact skipSpace_of_begins h

theorem ReadAs.begins {cs : List Char} (h : ReadAs cs j) (rest : List CodePoint) :
    Begins (cs.map .char ++ rest) := by
  obtain ⟨c, behind, hcs, hc⟩ := h.exists_cons
  rw [hcs]
  rintro _ ⟨⟩
  exact hc

end

section

variable {cs rest rest₁ : List CodePoint} {j : Json} {fuel : Nat}

theorem readItems_close {done : List Json} (h : readValue fuel cs = .ok (j, rest₁))
    (hrest : skipSpace rest₁ = .char ']' :: rest) :
    readItems (fuel + 1) done cs = .ok (.array (j :: done).reverse, rest) := by
  simp only [readItems, h, hrest, bind, Except.bind]

theorem readItems_comma {done : List Json} (h : readValue fuel cs = .ok (j, rest₁))
    (hrest : skipSpace rest₁ = .char ',' :: rest) :
    readItems (fuel + 1) done cs = readItems fuel (j :: done) (skipSpace rest) := by
  simp only [readItems, h, hrest, bind, Except.bind]

/-- The items behind the first one, each after a comma and on a line of its own. -/
def itemsBehind (depth : Nat) (ps : List (List Char × Json)) : List Char :=
  ps.flatMap fun p => ',' :: (line depth ++ p.1)

theorem readItems_pieces (inner outer : Nat) {p : List Char × Json}
    {ps : List (List Char × Json)} (hp : ReadAs p.1 p.2) (hps : ∀ q ∈ ps, ReadAs q.1 q.2)
    {done : List Json} (hfuel : 2 * (p.1.length + (itemsBehind inner ps).length) < fuel) :
    readItems fuel done (p.1.map .char ++ ((itemsBehind inner ps).map .char ++
      ((line outer).map .char ++ .char ']' :: rest))) =
      .ok (.array (done.reverse ++ p.2 :: ps.map Prod.snd), rest) := by
  induction ps generalizing p done fuel with
  | nil =>
    obtain _ | fuel := fuel
    · omega
    simp only [itemsBehind, List.flatMap_nil, List.length_nil, List.map_nil, List.nil_append]
      at hfuel ⊢
    rw [readItems_close (hp _ _ ends_line (by omega)) (skipSpace_line (by decide)),
      List.reverse_cons]
  | cons q qs ih =>
    obtain _ | fuel := fuel
    · omega
    obtain ⟨hq, hqs⟩ := List.forall_mem_cons.1 hps
    simp only [itemsBehind, List.flatMap_cons, List.cons_append, List.append_assoc,
      List.length_cons, List.length_append, List.map_cons, List.map_append] at hfuel ⊢
    rw [readItems_comma (hp _ _ ends_comma (by omega)) rfl, skipSpace_line_of_begins (hq.begins _)]
    have hread : readItems fuel (p.2 :: done)
        (q.1.map .char ++ ((itemsBehind inner qs).map .char ++
          ((line outer).map .char ++ .char ']' :: rest))) = _ :=
      ih hq hqs (by rw [itemsBehind]; omega)
    rw [itemsBehind] at hread
    rw [hread, List.reverse_cons, List.append_assoc]
    rfl

def arrayText (depth : Nat) (cs : List Char) (ps : List (List Char × Json)) : List Char :=
  '[' :: (line (depth + 1) ++ (cs ++ (itemsBehind (depth + 1) ps ++ (line depth ++ [']']))))

theorem readAs_array (depth : Nat) {p : List Char × Json} {ps : List (List Char × Json)}
    (hp : ReadAs p.1 p.2) (hps : ∀ q ∈ ps, ReadAs q.1 q.2) :
    ReadAs (arrayText depth p.1 ps) (.array (p.2 :: ps.map Prod.snd)) := by
  intro fuel rest hrest hfuel
  obtain _ | fuel := fuel
  · simp [arrayText] at hfuel
  have hread : readItems fuel [] (p.1.map .char ++ ((itemsBehind (depth + 1) ps).map .char ++
      ((line depth).map .char ++ .char ']' :: rest))) = _ :=
    readItems_pieces (depth + 1) depth hp hps (by simp [arrayText] at hfuel; omega)
  have hskip : skipSpace ((line (depth + 1)).map .char ++ (p.1.map .char ++
      ((itemsBehind (depth + 1) ps).map .char ++ ((line depth).map .char ++ .char ']' :: rest)))) =
        _ := skipSpace_line_of_begins (hp.begins _)
  obtain ⟨c, behind, hcs, -, hc, -⟩ := hp.exists_cons
  simp only [arrayText, List.map_cons, List.map_append, List.map_nil, List.cons_append,
    List.append_assoc, List.nil_append]
  simp only [readValue, hskip]
  rw [hcs] at hread ⊢
  split
  · rename_i heq
    cases heq
    exact absurd rfl hc
  · exact hread

def keyText (k : Text) : List Char :=
  '"' :: (k.points.flatMap escapePoint ++ ['"', ':', ' '])

theorem readText_keyText (start : Nat) (k : Text) :
    readText start [] ((k.points.flatMap escapePoint).map .char ++ .char '"' :: rest) =
      .ok (k.joined, rest) := by
  rw [readText_escaped, List.reverse_nil, List.nil_append]
  rfl

theorem readMembers_close {done : List (Text × Json)} (k : Text)
    (hskip : skipSpace (.char ' ' :: cs) = cs) (h : readValue fuel cs = .ok (j, rest₁))
    (hrest : skipSpace rest₁ = .char '\x7d' :: rest) :
    readMembers (fuel + 1) done ((keyText k).map .char ++ cs) =
      .ok (.object (Entries.ofPairs ((k.joined, j) :: done).reverse), rest) := by
  have hcolon : skipSpace (.char ':' :: .char ' ' :: cs) = .char ':' :: .char ' ' :: cs := rfl
  simp only [readMembers, keyText, List.map_cons, List.map_append, List.map_nil,
    List.cons_append, List.append_assoc, List.nil_append, readText_keyText, bind, Except.bind,
    hcolon, hskip, h, hrest]

theorem readMembers_comma {done : List (Text × Json)} (k : Text)
    (hskip : skipSpace (.char ' ' :: cs) = cs) (h : readValue fuel cs = .ok (j, rest₁))
    (hrest : skipSpace rest₁ = .char ',' :: rest) :
    readMembers (fuel + 1) done ((keyText k).map .char ++ cs) =
      readMembers fuel ((k.joined, j) :: done) (skipSpace rest) := by
  have hcolon : skipSpace (.char ':' :: .char ' ' :: cs) = .char ':' :: .char ' ' :: cs := rfl
  simp only [readMembers, keyText, List.map_cons, List.map_append, List.map_nil,
    List.cons_append, List.append_assoc, List.nil_append, readText_keyText, bind, Except.bind,
    hcolon, hskip, h, hrest]

def membersBehind (depth : Nat) (ps : List (Text × List Char × Json)) : List Char :=
  ps.flatMap fun p => ',' :: (line depth ++ (keyText p.1 ++ p.2.1))

def membersRead (ps : List (Text × List Char × Json)) : List (Text × Json) :=
  ps.map fun p => (p.1.joined, p.2.2)

theorem begins_keyText (k : Text) : Begins ((keyText k).map .char ++ rest) := by
  rintro _ ⟨⟩
  decide

theorem readMembers_pieces (inner outer : Nat) {p : Text × List Char × Json}
    {ps : List (Text × List Char × Json)} (hp : ReadAs p.2.1 p.2.2)
    (hps : ∀ q ∈ ps, ReadAs q.2.1 q.2.2) {done : List (Text × Json)}
    (hfuel : 2 * (p.2.1.length + (membersBehind inner ps).length) < fuel) :
    readMembers fuel done ((keyText p.1).map .char ++ (p.2.1.map .char ++
      ((membersBehind inner ps).map .char ++ ((line outer).map .char ++ .char '\x7d' :: rest)))) =
        .ok (.object (Entries.ofPairs (done.reverse ++ membersRead (p :: ps))), rest) := by
  induction ps generalizing p done fuel with
  | nil =>
    obtain _ | fuel := fuel
    · omega
    simp only [membersBehind, List.flatMap_nil, List.length_nil, List.map_nil, List.nil_append]
      at hfuel ⊢
    rw [readMembers_close p.1 (skipSpace_space_of_begins (hp.begins _))
      (hp _ _ ends_line (by omega)) (skipSpace_line (by decide)), List.reverse_cons]
    rfl
  | cons q qs ih =>
    obtain _ | fuel := fuel
    · omega
    obtain ⟨hq, hqs⟩ := List.forall_mem_cons.1 hps
    simp only [membersBehind, List.flatMap_cons, List.cons_append, List.append_assoc,
      List.length_cons, List.length_append, List.map_cons, List.map_append] at hfuel ⊢
    rw [readMembers_comma p.1 (skipSpace_space_of_begins (hp.begins _))
      (hp _ _ ends_comma (by omega)) rfl, skipSpace_line_of_begins (begins_keyText _)]
    have hread : readMembers fuel ((p.1.joined, p.2.2) :: done) ((keyText q.1).map .char ++
        (q.2.1.map .char ++ ((membersBehind inner qs).map .char ++
          ((line outer).map .char ++ .char '\x7d' :: rest)))) = _ :=
      ih hq hqs (by rw [membersBehind]; omega)
    rw [membersBehind] at hread
    rw [hread, List.reverse_cons, List.append_assoc]
    rfl

def objectText (depth : Nat) (k : Text) (cs : List Char)
    (ps : List (Text × List Char × Json)) : List Char :=
  '\x7b' :: (line (depth + 1) ++ (keyText k ++ (cs ++
    (membersBehind (depth + 1) ps ++ (line depth ++ ['\x7d'])))))

theorem readAs_object (depth : Nat) {p : Text × List Char × Json}
    {ps : List (Text × List Char × Json)} (hp : ReadAs p.2.1 p.2.2)
    (hps : ∀ q ∈ ps, ReadAs q.2.1 q.2.2) :
    ReadAs (objectText depth p.1 p.2.1 ps) (.object (Entries.ofPairs (membersRead (p :: ps)))) := by
  intro fuel rest hrest hfuel
  obtain _ | fuel := fuel
  · simp [objectText] at hfuel
  have hread : readMembers fuel [] ((keyText p.1).map .char ++ (p.2.1.map .char ++
      ((membersBehind (depth + 1) ps).map .char ++ ((line depth).map .char ++
        .char '\x7d' :: rest)))) = _ :=
    readMembers_pieces (depth + 1) depth hp hps (by simp [objectText] at hfuel; omega)
  simp only [objectText, List.map_cons, List.map_append, List.map_nil, List.cons_append,
    List.append_assoc, List.nil_append]
  simp only [readValue, skipSpace_line_of_begins (begins_keyText _)]
  exact hread

end

theorem readValue_of_readScalar {cs rest : List CodePoint} {a : Scalar} (fuel : Nat)
    (h : readScalar cs = .ok (a, rest)) : readValue (fuel + 1) cs = .ok (.scalar a, rest) := by
  unfold readValue
  split
  · cases h
  · cases h
  · cases h
  · rw [h]
    rfl

theorem readAs_scalar {a : Scalar} {t : String} (h : a.document? = some t) :
    ReadAs t.toList (.scalar a.reread) := by
  intro fuel rest hrest hfuel
  by_cases htext : ∃ s, a = .text s
  · obtain ⟨s, rfl⟩ := htext
    cases h
    obtain _ | fuel := fuel
    · simp [escaped] at hfuel
    · simp only [escaped, String.toList_ofList, List.map_cons, List.map_append, List.map_nil,
        List.cons_append, List.append_assoc, List.nil_append, readValue, readText_keyText, bind,
        Except.bind]
      rfl
  · have htext (s : Text) : a ≠ .text s := fun ha => htext ⟨s, ha⟩
    obtain _ | fuel := fuel
    · have hempty : t.toList = [] := List.eq_nil_of_length_eq_zero (by omega)
      have hread : readScalar (t.toList.map .char ++ []) = _ :=
        readScalar_document h htext fun _ hc => nomatch hc
      rw [hempty] at hread
      cases hread
    · rw [Scalar.reread_of_not_text htext]
      exact readValue_of_readScalar fuel (readScalar_document h htext hrest)

theorem readAs_emptyArray : ReadAs ['[', ']'] (.array []) := by
  intro fuel rest hrest hfuel
  obtain _ | fuel := fuel
  · cases hfuel
  · rfl

theorem readAs_emptyObject : ReadAs ['\x7b', '\x7d'] (.object []) := by
  intro fuel rest hrest hfuel
  obtain _ | fuel := fuel
  · cases hfuel
  · rfl

end Json

namespace Entries

variable {α : Type}

theorem set_of_notMem {k : Text} {es : Entries α} (h : k ∉ keys es) (v : α) :
    set k v es = es ++ [(k, v)] := by
  induction es with
  | nil => rfl
  | cons e es ih =>
    rw [keys, List.map_cons, List.mem_cons, not_or] at h
    rw [set, if_neg (Ne.symm h.1), ih h.2]
    rfl

theorem foldl_set_of_nodup {es ps : Entries α} (h : (keys (es ++ ps)).Nodup) :
    ps.foldl (fun es p => set p.1 p.2 es) es = es ++ ps := by
  induction ps generalizing es with
  | nil => exact (List.append_nil es).symm
  | cons p ps ih =>
    have hp : p.1 ∉ keys es := by
      rw [keys, List.map_append, List.map_cons] at h
      exact fun hmem => (List.disjoint_of_nodup_append h) hmem List.mem_cons_self
    rw [List.foldl_cons, set_of_notMem hp, ih, List.append_assoc]
    · rfl
    · rw [List.append_assoc]
      exact h

theorem ofPairs_of_nodup {ps : Entries α} (h : (keys ps).Nodup) : ofPairs ps = ps := by
  have hfold : ps.foldl (fun es p => set p.1 p.2 es) [] = [] ++ ps := foldl_set_of_nodup h
  exact hfold

end Entries

end NodeWalk
