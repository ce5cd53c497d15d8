import NodeWalk.Proofs.PointerTokens

set_option autoImplicit false

/-!
# The text of a pointer

Every list of tokens has a pointer, in which the tildes and slashes of the tokens are written
as escapes, and it is read as these tokens. A pointer without stray tildes is written again as
it was. Reading restores slashes and tildes one after the other, and yet does what one pass
from the left would do.
-/
namespace NodeWalk.Pointer

def escapeTildes (cs : List CodePoint) : List CodePoint :=
  cs.flatMap fun c => if c = .char '~' then ['~', '0'] else [c]

def escapeSlashes (cs : List CodePoint) : List CodePoint :=
  cs.flatMap fun c => if c = .char '/' then ['~', '1'] else [c]

/-- Tildes first, or those of the escapes would be escaped themselves. -/
def escape (cs : List CodePoint) : List CodePoint := escapeSlashes (escapeTildes cs)

def ofTokens (ts : List Text) : Text := ⟨ts.flatMap fun t => .char '/' :: escape t.points⟩

def unescape : List CodePoint → List CodePoint
  | .char '~' :: .char '1' :: cs => .char '/' :: unescape cs
  | .char '~' :: .char '0' :: cs => .char '~' :: unescape cs
  | c :: cs => c :: unescape cs
  | [] => []

/-- Every tilde is followed by a zero or a one. -/
def Formed (cs : List CodePoint) : Prop :=
  ∀ i < cs.length, cs[i]? = some (.char '~') →
    cs[i + 1]? = some (.char '0') ∨ cs[i + 1]? = some (.char '1')

instance (cs : List CodePoint) : Decidable (Formed cs) :=
  inferInstanceAs (Decidable (∀ i < cs.length, cs[i]? = some (.char '~') →
    cs[i + 1]? = some (.char '0') ∨ cs[i + 1]? = some (.char '1')))

variable {c : CodePoint} {cs ds : List CodePoint}

theorem head_of_restoreSlashes (h : restoreSlashes cs = .char '0' :: ds) :
    cs.head? = some (.char '0') := by
  unfold restoreSlashes at h
  split at h
  · cases h
  · cases h
    rfl
  · cases h

theorem decode_eq_unescape (cs : List CodePoint) : decode cs = unescape cs := by
  rw [decode]
  induction cs using unescape.induct with
  | case1 cs ih => rw [restoreSlashes, restoreTildes, ih, unescape]; simp
  | case2 cs ih => rw [restoreSlashes, restoreSlashes, restoreTildes, ih, unescape]; all_goals simp
  | case3 c cs hslash htilde ih =>
    have hzero (ds : List CodePoint) (hc : c = .char '~') :
        restoreSlashes cs ≠ .char '0' :: ds := by
      intro hds
      obtain ⟨rest, rfl⟩ := List.head?_eq_some_iff.1 (head_of_restoreSlashes hds)
      exact htilde rest hc rfl
    rw [restoreSlashes.eq_2 c cs hslash, restoreTildes.eq_2 c _ fun ds hc => hzero ds hc, ih,
      unescape.eq_3 c cs hslash htilde]
  | case4 => rfl

theorem escape_tilde (cs : List CodePoint) :
    escape (.char '~' :: cs) = .char '~' :: .char '0' :: escape cs := by
  simp [escape, escapeSlashes, escapeTildes]

theorem escape_slash (cs : List CodePoint) :
    escape (.char '/' :: cs) = .char '~' :: .char '1' :: escape cs := by
  simp [escape, escapeSlashes, escapeTildes]

theorem escape_plain (htilde : c ≠ .char '~') (hslash : c ≠ .char '/') (cs : List CodePoint) :
    escape (c :: cs) = c :: escape cs := by
  simp [escape, escapeSlashes, escapeTildes, htilde, hslash]

theorem unescape_plain (htilde : c ≠ .char '~') (cs : List CodePoint) :
    unescape (c :: cs) = c :: unescape cs :=
  unescape.eq_3 c cs (fun _ hc _ => htilde hc) fun _ hc _ => htilde hc

theorem unescape_escape (cs : List CodePoint) : unescape (escape cs) = cs := by
  induction cs with
  | nil => rfl
  | cons c cs ih =>
    by_cases htilde : c = .char '~'
    · rw [htilde, escape_tilde, unescape, ih]
    · by_cases hslash : c = .char '/'
      · rw [hslash, escape_slash, unescape, ih]
      · rw [escape_plain htilde hslash, unescape_plain htilde, ih]

theorem slash_not_mem_escape (cs : List CodePoint) : .char '/' ∉ escape cs := by
  induction cs with
  | nil => exact List.not_mem_nil
  | cons c cs ih =>
    by_cases htilde : c = .char '~'
    · rw [htilde, escape_tilde]
      simp [ih]
    · by_cases hslash : c = .char '/'
      · rw [hslash, escape_slash]
        simp [ih]
      · rw [escape_plain htilde hslash]
        simp [ih, Ne.symm hslash]

theorem formed_cons : Formed (c :: cs) ↔
    (c = .char '~' → cs.head? = some (.char '0') ∨ cs.head? = some (.char '1')) ∧ Formed cs := by
  simp only [Formed, List.length_cons, List.head?_eq_getElem?]
  constructor
  · intro h
    exact ⟨fun hc => h 0 (Nat.zero_lt_succ _) (congrArg some hc),
      fun i hi => h (i + 1) (Nat.succ_lt_succ hi)⟩
  · rintro ⟨hhead, htail⟩ i hi hc
    cases i with
    | zero => exact hhead (Option.some.inj hc)
    | succ i => exact htail i (Nat.lt_of_succ_lt_succ hi) hc

theorem escape_unescape (hf : Formed cs) (hslash : .char '/' ∉ cs) : escape (unescape cs) = cs := by
  induction cs using unescape.induct with
  | case1 cs ih =>
    rw [formed_cons, formed_cons] at hf
    simp only [List.mem_cons, not_or] at hslash
    rw [unescape, escape_slash, ih hf.2.2 hslash.2.2]
  | case2 cs ih =>
    rw [formed_cons, formed_cons] at hf
    simp only [List.mem_cons, not_or] at hslash
    rw [unescape, escape_tilde, ih hf.2.2 hslash.2.2]
  | case3 c cs hone hzero ih =>
    rw [formed_cons] at hf
    rw [List.mem_cons, not_or] at hslash
    have htilde : c ≠ .char '~' := by
      intro hc
      obtain h | h := hf.1 hc
      · obtain ⟨rest, hrest⟩ := List.head?_eq_some_iff.1 h
        exact hzero rest hc hrest
      · obtain ⟨rest, hrest⟩ := List.head?_eq_some_iff.1 h
        exact hone rest hc hrest
    rw [unescape_plain htilde, escape_plain htilde (Ne.symm hslash.1), ih hf.2 hslash.2]
  | case4 => rfl

theorem pieces_eq_splitOn (cs : List CodePoint) :
    pieces (.char '/') cs = cs.splitOn (.char '/') := by
  induction cs with
  | nil => rfl
  | cons c cs ih =>
    rw [List.splitOn, List.splitOnP_cons_eq_if_modifyHead, ← List.splitOn, ← ih, pieces]
    by_cases hc : c = .char '/'
    · simp [hc]
    · obtain ⟨p, ps, hps⟩ := List.exists_cons_of_ne_nil (pieces_ne_nil (CodePoint.char '/') cs)
      simp [hc, hps]

theorem pieces_escape (t : List CodePoint) (ts : List (List CodePoint)) :
    pieces (.char '/') (escape t ++ ts.flatMap fun t => .char '/' :: escape t) =
      escape t :: ts.map escape := by
  induction ts generalizing t with
  | nil => rw [List.flatMap_nil, List.append_nil, pieces_of_not_mem (slash_not_mem_escape t)]; rfl
  | cons u us ih =>
    rw [List.flatMap_cons, List.cons_append, pieces_append, ih,
      pieces_of_not_mem (slash_not_mem_escape t)]
    rfl

theorem flatMap_pieces (cs : List CodePoint) :
    ((pieces (.char '/') cs).flatMap fun p => .char '/' :: p) = .char '/' :: cs := by
  induction cs with
  | nil => rfl
  | cons c cs ih =>
    by_cases hc : c = .char '/'
    · simp [pieces, hc, ih]
    · obtain ⟨p, ps, hps⟩ := List.exists_cons_of_ne_nil (pieces_ne_nil (CodePoint.char '/') cs)
      rw [hps] at ih
      simpa [pieces, hc, hps] using ih

theorem head_of_pieces {p : List CodePoint} {ps : List (List CodePoint)}
    (hps : pieces (.char '/') cs = p :: ps) (hhead : cs.head? = some c)
    (hc : c ≠ .char '/') : p.head? = some c := by
  obtain ⟨rest, rfl⟩ := List.head?_eq_some_iff.1 hhead
  obtain ⟨q, qs, hqs⟩ := List.exists_cons_of_ne_nil (pieces_ne_nil (CodePoint.char '/') rest)
  rw [pieces, if_neg hc, hqs] at hps
  rw [← (List.cons.inj hps).1]
  rfl

theorem formed_pieces (hf : Formed cs) : ∀ p ∈ pieces (.char '/') cs, Formed p := by
  induction cs with
  | nil => simp [pieces, Formed]
  | cons c cs ih =>
    rw [formed_cons] at hf
    obtain ⟨p, ps, hps⟩ := List.exists_cons_of_ne_nil (pieces_ne_nil (CodePoint.char '/') cs)
    have ih := ih hf.2
    rw [hps] at ih
    by_cases hc : c = .char '/'
    · rw [pieces, if_pos hc, hps]
      exact List.forall_mem_cons.2 ⟨by simp [Formed], ih⟩
    · rw [pieces, if_neg hc, hps]
      obtain ⟨hp, hrest⟩ := List.forall_mem_cons.1 ih
      refine List.forall_mem_cons.2 ⟨formed_cons.2 ⟨fun htilde => ?_, hp⟩, hrest⟩
      exact (hf.1 htilde).imp (fun h => head_of_pieces hps h (by decide))
        fun h => head_of_pieces hps h (by decide)

theorem slash_not_mem_of_pieces : ∀ p ∈ pieces (.char '/') cs, .char '/' ∉ p := by
  induction cs with
  | nil => simp [pieces]
  | cons c cs ih =>
    obtain ⟨p, ps, hps⟩ := List.exists_cons_of_ne_nil (pieces_ne_nil (CodePoint.char '/') cs)
    rw [hps] at ih
    by_cases hc : c = .char '/'
    · rw [pieces, if_pos hc, hps]
      exact List.forall_mem_cons.2 ⟨List.not_mem_nil, ih⟩
    · rw [pieces, if_neg hc, hps]
      obtain ⟨hp, hrest⟩ := List.forall_mem_cons.1 ih
      exact List.forall_mem_cons.2 ⟨by simp [hp, Ne.symm hc], hrest⟩

theorem points_ofTokens (ts : List Text) :
    (ofTokens ts).points = (ts.map Text.points).flatMap fun t => .char '/' :: escape t := by
  simp [ofTokens, List.flatMap_map]

theorem tokens_slash {path : Text} (h : path.points = .char '/' :: cs) :
    tokens path = .ok ((pieces (.char '/') cs).map fun p => ⟨unescape p⟩) := by
  unfold tokens
  rw [h]
  simp only [decode_eq_unescape]

theorem tokens_ofTokens (ts : List Text) : tokens (ofTokens ts) = .ok ts := by
  cases ts with
  | nil => rfl
  | cons t ts =>
    have hlist := points_ofTokens (t :: ts)
    rw [List.map_cons, List.flatMap_cons, List.cons_append] at hlist
    have hback (t : Text) : (⟨unescape (escape t.points)⟩ : Text) = t := by
      rw [unescape_escape]
    rw [tokens_slash hlist, pieces_escape]
    simp [hback, Function.comp_def]

theorem ofTokens_of_tokens {path : Text} {ts : List Text} (hf : Formed path.points)
    (h : tokens path = .ok ts) : ofTokens ts = path := by
  apply Text.ext
  rw [points_ofTokens]
  cases hpath : path.points with
  | nil =>
    unfold tokens at h
    rw [hpath] at h
    cases h
    rfl
  | cons c cs =>
    by_cases hc : c = .char '/'
    · subst hc
      rw [tokens_slash hpath] at h
      cases h
      rw [hpath, formed_cons] at hf
      have hback : ∀ p ∈ pieces (.char '/') cs, escape (unescape p) = p := fun p hp =>
        escape_unescape (formed_pieces hf.2 p hp) (slash_not_mem_of_pieces p hp)
      simp only [List.map_map, List.flatMap_map, Function.comp_apply]
      calc ((pieces (.char '/') cs).flatMap fun p => .char '/' :: escape (unescape p))
          = (pieces (.char '/') cs).flatMap fun p => .char '/' :: p :=
            List.flatMap_congr fun p hp => congrArg (.char '/' :: ·) (hback p hp)
        _ = .char '/' :: cs := flatMap_pieces cs
    · unfold tokens at h
      rw [hpath] at h
      split at h <;> simp_all

/-- Reading inverts writing for all tokens, and writing inverts reading for all pointers without
stray tildes. Of any pointer, each token is its segment read in one pass from the left. -/
theorem tokens_inverse :
    (∀ ts : List Text, tokens (ofTokens ts) = .ok ts) ∧
    (∀ path : Text, path = "" ∨ path.points.head? = some (.char '/') → Formed path.points →
      ∃ ts, tokens path = .ok ts ∧ ofTokens ts = path) ∧
    ∀ (path : Text) (cs : List CodePoint), path.points = .char '/' :: cs →
      tokens path = .ok ((cs.splitOn (.char '/')).map fun s => ⟨unescape s⟩) := by
  refine ⟨tokens_ofTokens, fun path hstart hf => ?_, fun path cs hpath => ?_⟩
  · have hread : ∃ ts, tokens path = .ok ts := by
      obtain rfl | hslash := hstart
      · exact ⟨[], rfl⟩
      · obtain ⟨cs, hcs⟩ := List.head?_eq_some_iff.1 hslash
        exact ⟨_, tokens_slash hcs⟩
    obtain ⟨ts, hts⟩ := hread
    exact ⟨ts, hts, ofTokens_of_tokens hf hts⟩
  · rw [tokens_slash hpath, pieces_eq_splitOn]

/-- Tokens with both escapes, and a pointer with stray tildes next to escapes. -/
theorem tokens_inverse_mixed :
    tokens (ofTokens ["a/~1", "", "~0"]) = .ok ["a/~1", "", "~0"] ∧
      (Formed (Text.ofString "/a~1~01//~00").points ∧
        ∃ ts, tokens "/a~1~01//~00" = .ok ts ∧ ofTokens ts = "/a~1~01//~00") ∧
      tokens "/~01~~10/~" = .ok ["~1~/0", "~"] := by
  have hf : Formed (Text.ofString "/a~1~01//~00").points := by decide +kernel
  have hpath : (Text.ofString "/~01~~10/~").points =
      .char '/' :: (Text.ofString "~01~~10/~").points := by decide +kernel
  have hsegments : ((Text.ofString "~01~~10/~").points.splitOn (.char '/')).map
      (fun s => ⟨unescape s⟩) = ([↑"~1~/0", ↑"~"] : List Text) := by decide +kernel
  refine ⟨tokens_inverse.1 _, ⟨hf, tokens_inverse.2.1 _ (.inr (by decide +kernel)) hf⟩, ?_⟩
  rw [tokens_inverse.2.2 _ _ hpath, hsegments]

end NodeWalk.Pointer
