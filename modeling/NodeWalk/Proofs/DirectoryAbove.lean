import NodeWalk.Disk
import NodeWalk.Proofs.Actions
import NodeWalk.Proofs.PointerTokens

set_option autoImplicit false

/-!
# The directory of a file

The path above a path leads to the directory that the last step is taken in. So where a path
leads to a file, the directories around it are there, and none of them is made.
-/
namespace NodeWalk

namespace Path

variable {p : Path} {front : List String} {last : String}

theorem parts_slash (a b : String) : parts (a ++ "/" ++ b) = parts a ++ parts b := by
  have hlist : (a ++ "/" ++ b).toList = a.toList ++ '/' :: b.toList := by simp
  rw [parts, hlist, Pointer.pieces_append, List.map_append]
  rfl

theorem parts_of_notMem {s : String} (h : '/' ∉ s.toList) : parts s = [s] := by
  rw [parts, Pointer.pieces_of_not_mem h, List.map_singleton, String.ofList_toList]

theorem notMem_of_mem_pieces {cs piece : List Char} (h : piece ∈ Pointer.pieces '/' cs) :
    '/' ∉ piece := by
  induction cs generalizing piece with
  | nil =>
    rw [List.mem_singleton.1 h]
    exact List.not_mem_nil
  | cons c cs ih =>
    unfold Pointer.pieces at h
    split at h
    · obtain rfl | h := List.mem_cons.1 h
      · exact List.not_mem_nil
      · exact ih h
    · rename_i hc
      split at h
      · rw [List.mem_singleton.1 h, List.mem_singleton]
        exact Ne.symm hc
      · rename_i q qs hpieces
        rw [hpieces] at ih
        obtain rfl | h := List.mem_cons.1 h
        · rw [List.mem_cons, not_or]
          exact ⟨Ne.symm hc, ih List.mem_cons_self⟩
        · exact ih (List.mem_cons_of_mem _ h)

structure Tidy (p : Path) : Prop where
  lead : p.lead = "" ∨ p.lead = "/" ∨ p.lead = "//"
  step : ∀ s ∈ p.steps, s ≠ "" ∧ '/' ∉ s.toList

theorem tidy_ofText (text : String) : (ofText text).Tidy where
  lead := by
    unfold ofText
    dsimp only
    split
    · exact .inr (.inr rfl)
    · split
      · exact .inl rfl
      · exact .inr (.inl rfl)
  step := by
    intro s hs
    obtain ⟨hmem, hkept⟩ := List.mem_filter.1 hs
    obtain ⟨piece, hpiece, rfl⟩ := List.mem_map.1 hmem
    rw [Bool.and_eq_true, bne_iff_ne] at hkept
    rw [String.toList_ofList]
    exact ⟨hkept.1, notMem_of_mem_pieces hpiece⟩

theorem text_ne_empty (p : Path) : p.text ≠ "" := by
  unfold text
  dsimp only
  split
  · decide
  · assumption

theorem text_of_ne_empty (h : p.lead ++ "/".intercalate p.steps ≠ "") :
    p.text = p.lead ++ "/".intercalate p.steps := if_neg h

theorem intercalate_ne_empty {s : String} (hs : s ≠ "") (ss : List String) :
    "/".intercalate (s :: ss) ≠ "" := by
  by_cases hss : ss = []
  · rw [hss, String.intercalate_singleton]
    exact hs
  · rw [String.intercalate_cons_of_ne_nil hss, ne_eq, String.append_eq_empty_iff,
      String.append_eq_empty_iff]
    exact fun h => hs h.1.1

theorem text_above (hp : p.Tidy) (hsteps : p.steps = front ++ [last]) :
    p.text = (Path.mk p.lead front).text ++ "/" ++ last ∨
      (Path.mk p.lead front).text = "." ∧ p.text = last ∨
      ((Path.mk p.lead front).text = "/" ∨ (Path.mk p.lead front).text = "//") ∧
        p.text = (Path.mk p.lead front).text ++ last := by
  have hlast : last ≠ "" := (hp.step last (by rw [hsteps]; simp)).1
  by_cases hfront : front = []
  · have htext : p.text = p.lead ++ last := by
      have hwhole : p.lead ++ "/".intercalate p.steps = p.lead ++ last := by
        rw [hsteps, hfront, List.nil_append, String.intercalate_singleton]
      rw [text_of_ne_empty, hwhole]
      rw [hwhole, ne_eq, String.append_eq_empty_iff]
      exact fun h => hlast h.2
    rw [htext, hfront]
    obtain hlead | hlead | hlead := hp.lead
    · rw [hlead]
      exact .inr (.inl ⟨rfl, String.empty_append⟩)
    · rw [hlead]
      exact .inr (.inr ⟨.inl rfl, rfl⟩)
    · rw [hlead]
      exact .inr (.inr ⟨.inr rfl, rfl⟩)
  · have habove : (Path.mk p.lead front).text = p.lead ++ "/".intercalate front := by
      refine text_of_ne_empty ?_
      obtain ⟨s, ss, rfl⟩ := List.exists_cons_of_ne_nil hfront
      have hs : s ≠ "" := (hp.step s (by rw [hsteps]; simp)).1
      rw [ne_eq, String.append_eq_empty_iff]
      exact fun h => intercalate_ne_empty hs ss h.2
    have hwhole : p.lead ++ "/".intercalate p.steps =
        (Path.mk p.lead front).text ++ "/" ++ last := by
      rw [habove, hsteps, String.intercalate_append_of_ne_nil hfront (List.cons_ne_nil _ _),
        String.intercalate_singleton, String.append_assoc, String.append_assoc,
        String.append_assoc]
    refine .inl ?_
    rw [text_of_ne_empty, hwhole]
    rw [hwhole, ne_eq, String.append_eq_empty_iff]
    exact fun h => hlast h.2

end Path

namespace Disk

variable {d : Disk} {p : Path} {place q : Place} {front : List String} {a last : String}

theorem item?_of_enter {step : String} (h : d.enter q step = .ok place) :
    d.item? q = some .directory := by
  unfold enter at h
  split at h
  · cases h
  · cases h
  · assumption

theorem enter_same (h : d.item? q = some .directory) {step : String}
    (hstep : step = "" ∨ step = ".") : d.enter q step = .ok q := by
  obtain rfl | rfl := hstep
  · simp [enter, h]
  · simp [enter, h]

def Followed (path : String) : Prop :=
  '\x00' ∉ path.toList ∧ path ≠ "" ∧ path.utf8ByteSize ≤ maxPath

def start (d : Disk) (path : String) : Place :=
  if path.toList.head? = some '/' then [] else d.current

theorem follow_eq_ok_iff {path : String} : d.follow path = .ok place ↔ Followed path ∧
    (Path.parts path).foldlM d.enter (d.start path) = .ok place := by
  unfold follow Followed start
  by_cases hnul : '\x00' ∈ path.toList
  · simp [hnul]
  by_cases hempty : path = ""
  · simp [hempty]
  by_cases hlong : maxPath < path.utf8ByteSize
  · simp [hnul, hempty, hlong, Nat.not_le.2 hlong]
  · simp [hnul, hempty, hlong, Nat.le_of_not_lt hlong]

theorem item?_start {path : String} (h : d.follow path = .ok place) :
    d.item? (d.start path) = some .directory := by
  obtain ⟨-, hfold⟩ := follow_eq_ok_iff.1 h
  obtain ⟨step, steps, hparts⟩ := List.exists_cons_of_ne_nil
    (mt List.map_eq_nil_iff.1 (Pointer.pieces_ne_nil '/' path.toList) : Path.parts path ≠ [])
  rw [hparts, List.foldlM_cons] at hfold
  obtain ⟨q, hq, -⟩ := bind_ok_iff.1 hfold
  exact item?_of_enter hq

theorem look_start {path : String} (hpath : Followed path)
    (hparts : ∀ step ∈ Path.parts path, step = "" ∨ step = ".")
    (h : d.item? (d.start path) = some .directory) : d.look path = .ok .directory := by
  have hfold {steps : List String} (hsteps : ∀ step ∈ steps, step = "" ∨ step = ".") :
      steps.foldlM d.enter (d.start path) = .ok (d.start path) := by
    induction steps with
    | nil => rfl
    | cons step steps ih =>
      obtain ⟨hstep, hsteps⟩ := List.forall_mem_cons.1 hsteps
      rw [List.foldlM_cons, enter_same h hstep]
      exact ih hsteps
  rw [look, follow_eq_ok_iff.2 ⟨hpath, hfold hparts⟩]
  dsimp only [bind, Except.bind]
  rw [h]

theorem start_append (ha : a ≠ "") (b : String) : d.start (a ++ b) = d.start a := by
  have hne : a.toList ≠ [] := mt (fun h => String.toList_inj.1 h) ha
  rw [start, start, String.toList_append, List.head?_append_of_ne_nil _ hne]

theorem exists_enter (hlast : '/' ∉ last.toList) (ha : a ≠ "")
    (h : d.follow (a ++ "/" ++ last) = .ok place) :
    ∃ q, d.follow a = .ok q ∧ d.enter q last = .ok place := by
  obtain ⟨⟨hnul, -, hlong⟩, hfold⟩ := follow_eq_ok_iff.1 h
  rw [Path.parts_slash, Path.parts_of_notMem hlast, List.foldlM_append] at hfold
  obtain ⟨q, hq, hstep⟩ := bind_ok_iff.1 hfold
  obtain ⟨r, henter, hr⟩ := bind_ok_iff.1 hstep
  cases hr
  rw [String.append_assoc, start_append ha] at hq
  rw [String.append_assoc] at hnul hlong
  rw [String.toList_append, List.mem_append, not_or] at hnul
  rw [String.utf8ByteSize_append] at hlong
  exact ⟨q, follow_eq_ok_iff.2 ⟨⟨hnul.1, ha, by omega⟩, hq⟩, henter⟩

theorem look_above (hp : p.Tidy) (hsteps : p.steps = front ++ [last])
    (h : d.follow p.text = .ok place) :
    d.look (Path.mk p.lead front).text = .ok .directory := by
  have hlast : '/' ∉ last.toList := (hp.step last (by rw [hsteps]; simp)).2
  have hstart := item?_start h
  obtain htext | ⟨habove, htext⟩ | ⟨habove, htext⟩ := Path.text_above hp hsteps
  · rw [htext] at h
    obtain ⟨q, hq, henter⟩ := exists_enter hlast (Path.text_ne_empty _) h
    rw [look, hq]
    dsimp only [bind, Except.bind]
    rw [item?_of_enter henter]
  · have hhead : d.start last = d.current := by
      refine if_neg fun hslash => hlast ?_
      exact List.mem_of_mem_head? hslash
    rw [habove]
    rw [htext, hhead] at hstart
    exact look_start ⟨by decide, by decide, by decide⟩ (by decide) hstart
  · rw [htext, start_append (Path.text_ne_empty _)] at hstart
    obtain habove | habove := habove
    · rw [habove] at hstart ⊢
      exact look_start ⟨by decide, by decide, by decide⟩ (by decide) hstart
    · rw [habove] at hstart ⊢
      exact look_start ⟨by decide, by decide, by decide⟩ (by decide) hstart

theorem makeDirectories_present {around : List Path} (h : d.look p.text = .ok .directory) :
    d.makeDirectories (p :: around) = (d, none) := by
  have hmake : d.makeDirectory p.text = .error .present := by
    obtain ⟨q, hq, hitem⟩ := bind_ok_iff.1 h
    rw [makeDirectory, hq]
    dsimp only [bind, Except.bind]
    split at hitem
    · rfl
    · cases hitem
  have hdirectory : d.isDirectory p.text = true := by
    rw [isDirectory, h]
  simp [makeDirectories, hmake, stop?, hdirectory]

theorem makeDirectories_above (hp : p.Tidy) (h : d.follow p.text = .ok place) :
    d.makeDirectories p.above = (d, none) := by
  obtain hnil | ⟨front, last, hsteps⟩ := List.eq_nil_or_concat' p.steps
  · rw [Path.above, hnil]
    rfl
  · have habove : p.above = Path.mk p.lead front ::
        (List.range front.length).reverse.map fun n => { p with steps := p.steps.take n } := by
      rw [Path.above, hsteps, List.length_append, List.length_singleton, List.range_succ,
        List.reverse_append, List.reverse_singleton, List.singleton_append, List.map_cons,
        List.take_left]
    rw [habove]
    exact makeDirectories_present (look_above hp hsteps h)

end Disk
end NodeWalk
