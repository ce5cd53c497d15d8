import NodeWalk.Proofs.DirectoryAbove
import NodeWalk.Proofs.WrittenDocument

set_option autoImplicit false

/-!
# Written files

A file that was written is found again by the same path: all directories on the way are as
they were, since a file stands in the place of none. A text of plain characters has one octet
for each, so it is read from the file as it was written.
-/
namespace NodeWalk

theorem toList_loop (bs : ByteArray) (i : Nat) (done : List UInt8) :
    ByteArray.toList.loop bs i done = done.reverse ++ bs.data.toList.drop i := by
  fun_induction ByteArray.toList.loop bs i done with
  | case1 i done hlt ih =>
    have hi : i < bs.data.toList.length := hlt
    have hget : bs.get! i = bs.data.toList[i] := by
      rw [ByteArray.get!, getElem!_pos bs.data i hlt, Array.getElem_toList]
    rw [ih, List.reverse_cons, List.append_assoc, List.drop_eq_getElem_cons hi, hget]
    rfl
  | case2 i done hge =>
    rw [List.drop_eq_nil_of_le (Nat.le_of_not_lt hge), List.append_nil]

theorem toList_toUTF8 {s : String} (hs : ∀ c ∈ s.toList, c.toNat < 0x80) :
    s.toUTF8.toList = s.toList.map fun c => UInt8.ofNat c.toNat := by
  have hchar : ∀ c ∈ s.toList, String.utf8EncodeChar c = [UInt8.ofNat c.toNat] := by
    intro c hc
    have hsize : c.utf8Size = 1 := by
      rw [Char.utf8Size_eq_one_iff, UInt32.le_iff_toNat_le]
      exact Nat.le_of_lt_succ (hs c hc)
    rw [String.utf8EncodeChar_eq_singleton hsize]
    rfl
  rw [ByteArray.toList, toList_loop, List.drop_zero,
    String.toUTF8_eq_toByteArray, ← String.utf8Encode_toList, List.utf8Encode,
    List.toList_data_toByteArray, List.flatMap_congr hchar, ← List.map_eq_flatMap]
  rfl

namespace Text

theorem decodeFrom_plain {cs : List Char} (h : ∀ c ∈ cs, c.toNat < 0x80) (i : Nat)
    (done : List CodePoint) :
    Utf8.decodeFrom false i done (cs.map fun c => UInt8.ofNat c.toNat) =
      .ok (done.reverse ++ cs.map .char) := by
  induction cs generalizing i done with
  | nil => exact congrArg Except.ok (List.append_nil _).symm
  | cons c cs ih =>
    obtain ⟨hc, hcs⟩ := List.forall_mem_cons.1 h
    have hwidth : Utf8.width (UInt8.ofNat c.toNat) = 1 := by
      have hall : ∀ n, n < 0x80 → Utf8.width (UInt8.ofNat n) = 1 := by decide
      exact hall _ hc
    have hchar : Char.ofNat (UInt8.ofNat c.toNat).toNat = c := by
      rw [UInt8.toNat_ofNat_of_lt' (Nat.lt_trans hc (by decide)), Char.ofNat_toNat]
    rw [List.map_cons, Utf8.decodeFrom.eq_def]
    dsimp only
    rw [hwidth, hchar]
    change Utf8.decodeFrom false (i + 1) (.char c :: done) _ = _
    rw [ih hcs, List.reverse_cons, List.append_assoc]
    rfl

theorem unifyLines_plain {cs : List Char} (h : ∀ c ∈ cs, c ≠ '\r') :
    unifyLines (cs.map .char) = cs.map .char := by
  induction cs with
  | nil => rfl
  | cons c cs ih =>
    obtain ⟨hc, hcs⟩ := List.forall_mem_cons.1 h
    simp [unifyLines, hc, ih hcs]

end Text

namespace Disk

variable {d e : Disk} {path : String} {place : Place} {bytes : List UInt8}

def Keeps (d e : Disk) : Prop := ∀ place item, d.item? place = some item → e.item? place = some item

theorem keeps_makeDirectory (h : d.makeDirectory path = .ok e) : d.Keeps e := by
  intro q item hq
  obtain ⟨place, -, hplace⟩ := bind_ok_iff.1 h
  split at hplace
  · cases hplace
  · rename_i habsent
    cases hplace
    rwa [item?_put_of_ne]
    rintro rfl
    rw [habsent] at hq
    cases hq

theorem keeps_makeDirectories {ps : List Path} {f : Option Fault}
    (h : d.makeDirectories ps = (e, f)) : d.Keeps e := by
  induction ps generalizing e f with
  | nil =>
    cases h
    exact fun _ _ hq => hq
  | cons p around ih =>
    rw [makeDirectories] at h
    split at h
    · cases h
      exact keeps_makeDirectory ‹_›
    · split at h
      · cases h
        exact ih ‹_›
      · have haround := ih ‹_›
        split at h
        · cases h
          exact fun q item hq => keeps_makeDirectory ‹_› q item (haround q item hq)
        · cases h
          exact haround
    · cases h
      exact fun _ _ hq => hq

theorem enter_put {q r : Place} {step : String} (hplace : d.item? place ≠ some .directory)
    (h : d.enter q step = .ok r) (item : Item) : (d.put place item).enter q step = .ok r := by
  have hne : q ≠ place := by
    rintro rfl
    unfold enter at h
    split at h
    · cases h
    · cases h
    · exact hplace ‹_›
  unfold enter at h ⊢
  rw [item?_put_of_ne d hne]
  exact h

theorem foldlM_enter_put {steps : List String} {q r : Place}
    (hplace : d.item? place ≠ some .directory) (h : steps.foldlM d.enter q = .ok r) (item : Item) :
    steps.foldlM (d.put place item).enter q = .ok r := by
  induction steps generalizing q with
  | nil => exact h
  | cons step steps ih =>
    rw [List.foldlM_cons] at h ⊢
    obtain ⟨q', hfirst, hrest⟩ := bind_ok_iff.1 h
    exact bind_ok_iff.2 ⟨q', enter_put hplace hfirst item, ih hrest⟩

theorem follow_put {r : Place} (hplace : d.item? place ≠ some .directory)
    (h : d.follow path = .ok r) (item : Item) : (d.put place item).follow path = .ok r := by
  obtain ⟨hpath, hfold⟩ := follow_eq_ok_iff.1 h
  exact follow_eq_ok_iff.2 ⟨hpath, foldlM_enter_put hplace hfold item⟩

theorem write_ok (h : d.write path bytes = .ok (place, e)) :
    d.follow path = .ok place ∧ d.item? place ≠ some .directory ∧
      e = d.put place (.file bytes) := by
  unfold write at h
  split at h
  · cases h
  · rename_i hfollow
    split at h
    · cases h
    · rename_i hplace
      cases h
      exact ⟨hfollow, hplace, rfl⟩

theorem write_above {p : Path} (hp : p.Tidy) (h : d.look p.text = .ok (.file bytes)) :
    ∃ place, d.makeDirectories p.above = (d, none) ∧
      ∀ new, d.write p.text new = .ok (place, d.put place (.file new)) := by
  obtain ⟨place, hfollow, hitem⟩ := bind_ok_iff.1 h
  have hfile : d.item? place = some (.file bytes) := by
    split at hitem
    · cases hitem
      assumption
    · cases hitem
  refine ⟨place, makeDirectories_above hp hfollow, fun new => ?_⟩
  rw [write, hfollow]
  dsimp only
  rw [hfile]

theorem look_write (h : d.write path bytes = .ok (place, e)) : e.look path = .ok (.file bytes) := by
  obtain ⟨hfollow, hplace, rfl⟩ := write_ok h
  rw [look, follow_put hplace hfollow]
  dsimp only [bind, Except.bind]
  rw [item?_put_self]

theorem readText_write {p : Path} {text : String} (hplain : ∀ c ∈ text.toList, Json.Plain c)
    (h : d.write p.text text.toUTF8.toList = .ok (place, e)) :
    e.readText p = .ok (text.toList.map .char) := by
  have hdecode : Text.decodeUtf8 text.toUTF8.toList = .ok (text.toList.map .char) := by
    rw [toList_toUTF8 fun c hc => (hplain c hc).1]
    exact Text.decodeFrom_plain (fun c hc => (hplain c hc).1) 0 []
  rw [readText, look_write h]
  dsimp only
  rw [hdecode]
  exact congrArg Except.ok (Text.unifyLines_plain fun c hc => (hplain c hc).2)

theorem readDocument_write {p : Path} {t : Unfolding} {text : String} (ht : t.Distinct)
    (hwrite : t.write = .ok text) (h : d.write p.text text.toUTF8.toList = .ok (place, e)) :
    ∃ j : Json, t = j.unfolding ∧ e.readDocument p = .ok j.reread := by
  obtain ⟨j, hj, hread, hplain⟩ := Unfolding.read_write ht hwrite
  refine ⟨j, hj, ?_⟩
  rw [readDocument, readText_write hplain h]
  dsimp only [bind, Except.bind]
  rw [hread]

end Disk
end NodeWalk
