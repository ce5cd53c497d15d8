import Mathlib.Data.List.Basic
import NodeWalk.Pointer

set_option autoImplicit false

/-!
# The tokens of a pointer

One more token is one more slash and a piece without slashes behind the pointer, and
every pointer with tokens is made in that way.
-/
namespace NodeWalk.Pointer

section

variable {α : Type} [DecidableEq α] {separator : α}

theorem pieces_ne_nil (separator : α) (cs : List α) : pieces separator cs ≠ [] := by
  cases cs with
  | nil => exact List.cons_ne_nil _ _
  | cons c cs =>
    unfold pieces
    split
    · exact List.cons_ne_nil _ _
    · split <;> exact List.cons_ne_nil _ _

theorem pieces_append (cs ds : List α) :
    pieces separator (cs ++ separator :: ds) = pieces separator cs ++ pieces separator ds := by
  induction cs with
  | nil => simp [pieces]
  | cons c cs ih =>
    by_cases hc : c = separator
    · simp [pieces, hc, ih]
    · obtain ⟨p, ps, hps⟩ := List.exists_cons_of_ne_nil (pieces_ne_nil separator cs)
      simp [pieces, hc, ih, hps]

theorem pieces_of_not_mem {cs : List α} (h : separator ∉ cs) : pieces separator cs = [cs] := by
  induction cs with
  | nil => rfl
  | cons c cs ih =>
    rw [List.mem_cons, not_or] at h
    simp [pieces, Ne.symm h.1, ih h.2]

omit [DecidableEq α] in
theorem exists_last {cs : List α} (h : separator ∈ cs) :
    ∃ init piece, cs = init ++ separator :: piece ∧ separator ∉ piece := by
  obtain ⟨front, back, hcs, hfront⟩ := List.eq_append_cons_of_mem (List.mem_reverse.2 h)
  refine ⟨back.reverse, front.reverse, ?_, fun hm => hfront (List.mem_reverse.1 hm)⟩
  have hrev := congrArg List.reverse hcs
  simpa using hrev

end

theorem restoreSlashes_of_not_mem {cs : List CodePoint} (h : .char '~' ∉ cs) :
    restoreSlashes cs = cs := by
  induction cs with
  | nil => rfl
  | cons c cs ih =>
    rw [List.mem_cons, not_or] at h
    rw [restoreSlashes.eq_2 c cs fun ds hc _ => h.1 hc.symm, ih h.2]

theorem restoreTildes_of_not_mem {cs : List CodePoint} (h : .char '~' ∉ cs) :
    restoreTildes cs = cs := by
  induction cs with
  | nil => rfl
  | cons c cs ih =>
    rw [List.mem_cons, not_or] at h
    rw [restoreTildes.eq_2 c cs fun ds hc _ => h.1 hc.symm, ih h.2]

theorem decode_of_not_mem {cs : List CodePoint} (h : .char '~' ∉ cs) : decode cs = cs := by
  rw [decode, restoreSlashes_of_not_mem h, restoreTildes_of_not_mem h]

theorem restoreSlashes_eq_dash {cs : List CodePoint} (h : restoreSlashes cs = [.char '-']) :
    cs = [.char '-'] := by
  unfold restoreSlashes at h
  split at h
  · cases h
  · obtain ⟨rfl, hcs⟩ := List.cons.inj h
    unfold restoreSlashes at hcs
    split at hcs
    · cases hcs
    · cases hcs
    · rfl
  · cases h

theorem restoreTildes_eq_dash {cs : List CodePoint} (h : restoreTildes cs = [.char '-']) :
    cs = [.char '-'] := by
  unfold restoreTildes at h
  split at h
  · cases h
  · obtain ⟨rfl, hcs⟩ := List.cons.inj h
    unfold restoreTildes at hcs
    split at hcs
    · cases hcs
    · cases hcs
    · rfl
  · cases h

theorem eq_dash_of_decode {piece : Text} (h : (⟨decode piece.points⟩ : Text) = "-") :
    piece = "-" :=
  Text.ext (restoreSlashes_eq_dash (restoreTildes_eq_dash (congrArg Text.points h)))

theorem tokens_eq_nil_iff {path : Text} : tokens path = .ok [] ↔ path = "" := by
  constructor
  · intro h
    unfold tokens at h
    split at h
    · rename_i hpath
      exact Text.ext hpath
    · exact absurd (List.map_eq_nil_iff.1 (Except.ok.inj h)) (pieces_ne_nil _ _)
    · cases h
  · rintro rfl
    rfl

theorem tokens_below {base piece : Text} {ts : List Text} (h : tokens base = .ok ts)
    (hpiece : .char '/' ∉ piece.points) :
    tokens (base ++ "/" ++ piece) = .ok (ts ++ [⟨decode piece.points⟩]) := by
  have hlist : (base ++ "/" ++ piece).points = base.points ++ .char '/' :: piece.points := by simp
  unfold tokens at h ⊢
  rw [hlist]
  split at h
  · rename_i hbase
    cases h
    simp [hbase, pieces_of_not_mem hpiece]
  · rename_i cs hbase
    cases h
    simp [hbase, pieces_append, pieces_of_not_mem hpiece]
  · cases h

theorem exists_of_tokens_concat {path last : Text} {ts : List Text}
    (h : tokens path = .ok (ts ++ [last])) :
    ∃ base piece : Text, path = base ++ "/" ++ piece ∧ .char '/' ∉ piece.points ∧
      tokens base = .ok ts ∧ last = ⟨decode piece.points⟩ := by
  have hslash : ∃ cs, path.points = .char '/' :: cs := by
    unfold tokens at h
    split at h
    · exact absurd (Except.ok.inj h).symm (List.append_ne_nil_of_right_ne_nil _ (by simp))
    · exact ⟨_, by assumption⟩
    · cases h
  obtain ⟨cs, hcs⟩ := hslash
  have hmem : .char '/' ∈ path.points := by simp [hcs]
  obtain ⟨init, piece, hsplit, hpiece⟩ := exists_last hmem
  have hpath : path = (⟨init⟩ : Text) ++ "/" ++ ⟨piece⟩ := by
    ext1
    simp [hsplit]
  have hbase : ∃ ts', tokens ⟨init⟩ = .ok ts' := by
    unfold tokens
    cases init with
    | nil => exact ⟨[], by simp⟩
    | cons c init =>
      rw [hcs, List.cons_append] at hsplit
      obtain ⟨rfl, -⟩ := List.cons.inj hsplit
      exact ⟨_, rfl⟩
  obtain ⟨ts', hts'⟩ := hbase
  have hall := tokens_below hts' hpiece
  rw [← hpath, h] at hall
  obtain ⟨rfl, hlast⟩ := List.append_inj' (Except.ok.inj hall) rfl
  exact ⟨_, _, hpath, hpiece, hts', (List.cons.inj hlast).1⟩

end NodeWalk.Pointer
