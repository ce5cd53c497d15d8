import NodeWalk.Proofs.BrokenText
import NodeWalk.Proofs.KeyedObjects

set_option autoImplicit false

/-!
# Failed saves

A save that fails before the file is open leaves all files as they were. One that fails at a
place in the document has emptied the file by then: the file holds what was written up to
there, and no document any more.
-/
namespace NodeWalk

namespace Disk

variable {d e : Disk} {p : Path} {place : Place} {text : String}

theorem readDocument_ne_ok (hplain : ∀ c ∈ text.toList, Json.Plain c)
    (htext : ∀ j, Json.read (text.toList.map .char) ≠ .ok j)
    (h : d.write p.text text.toUTF8.toList = .ok (place, e)) (j : Json) :
    e.readDocument p ≠ .ok j := by
  intro hread
  obtain ⟨cs, hcs, hj⟩ := readDocument_ok hread
  rw [readText_write hplain h] at hcs
  cases hcs
  exact htext j hj

end Disk

namespace WorldFile

variable {disk : Disk} {path : String} {s t : Store} {saved : Saved} {f : Fault}

/-- The file at the path holds what was written of a document, which is no document, and
everything else on the disk is as it was. -/
structure CutShort (disk : Disk) (path : Path) (written : String) (place : Place)
    (e : Disk) : Prop where
  content : e.look path.text = .ok (.file written.toUTF8.toList)
  unreadable : ∀ j, e.readDocument path ≠ .ok j
  others : ∀ other item, other ≠ place → disk.item? other = some item → e.item? other = some item

/-- A save that fails either has not come to the file, or has cut it short; this is so where
the document holds itself or an integer that is too long. -/
theorem save_failed (hsave : save disk path s = (saved, t)) (hfault : saved.fault = some f)
    (hkeys : (s.objects.unfold s.root).Distinct) :
    t = s ∧ (saved.written = none ∧ disk.Keeps saved.disk ∨
      ∃ b place, (s.objects.unfold s.root).write = .error b ∧ f = b.error.fault ∧
        (∀ j : Json, j.Every Scalar.Writable → s.objects.unfold s.root ≠ j.unfolding) ∧
        saved.written = some ⟨Path.ofText path, place, b.written⟩ ∧
        CutShort disk (Path.ofText path) b.written place saved.disk) := by
  obtain ⟨hwritten, -, ht, hkeeps⟩ | ⟨d, place, hdirectories, ⟨text, -, hok, -⟩ |
    ⟨b, hb, hbroken, hwritten, ht, hwrite⟩⟩ := save_cases hsave
  · exact ⟨ht, .inl ⟨hwritten, hkeeps⟩⟩
  · rw [hok] at hfault
    cases hfault
  · rw [hbroken] at hfault
    cases hfault
    obtain ⟨hunreadable, hplain⟩ := Unfolding.read_written hkeys hb
    obtain ⟨-, -, hdisk⟩ := Disk.write_ok hwrite
    refine ⟨ht, .inr ⟨b, place, hb, rfl, fun j hj hunfold => ?_, hwritten, ?_⟩⟩
    · have hwrites := Unfolding.writes_unfolding hj 0 "" ""
      rw [← hunfold, ← Unfolding.write, hb] at hwrites
      exact hwrites.2 fun a ha => ha
    · refine ⟨Disk.look_write hwrite, Disk.readDocument_ne_ok hplain hunreadable hwrite, ?_⟩
      intro other item hother hitem
      rw [hdisk, Disk.item?_put_of_ne _ hother]
      exact Disk.keeps_makeDirectories hdirectories other item hitem

def bare : Store := opened "w.json" (.object []) .empty

def looped : Store := ((Document.set (.text "/me") bare.root).run bare).2

theorem read_bare :
    (holding "\x7b\x7d").readDocument (Path.ofText "w.json") = .ok (.object []) :=
  ok_of_toOption (by decide +kernel)

theorem set_looped : (Document.set (.text "/me") bare.root).run bare = (.ok (), looped) :=
  run_eq_of_result (ok_of_toOption (by decide +kernel))

theorem held_looped : Held "w.json" looped :=
  .written (.opened Objects.keyed_empty (load_of_readDocument read_bare .empty)) set_looped

theorem write_looped : (looped.objects.unfold looped.root).write =
    .error ⟨"\x7b\n  \"me\": ", .circular⟩ := rfl

theorem save_failed_looped :
    (save (holding "\x7b\x7d") "w.json" looped).1.fault.isSome = true ∧
      ∃ (b : Unfolding.Broken) (place : Place),
        (looped.objects.unfold looped.root).write = .error b ∧
        CutShort (holding "\x7b\x7d") (Path.ofText "w.json") b.written place
          (save (holding "\x7b\x7d") "w.json" looped).1.disk := by
  have hfault : (save (holding "\x7b\x7d") "w.json" looped).1.fault.isSome = true := by
    decide +kernel
  have hwritten : (save (holding "\x7b\x7d") "w.json" looped).1.written.isSome = true := by
    decide +kernel
  obtain ⟨f, hf⟩ := Option.isSome_iff_exists.1 hfault
  obtain ⟨-, ⟨hnone, -⟩ | ⟨b, place, hb, -, -, -, hcut⟩⟩ :=
    save_failed Prod.mk.eta.symm hf held_looped.distinct
  · rw [hnone] at hwritten
    cases hwritten
  · exact ⟨hfault, b, place, hb, hcut⟩

/-- The file held an empty object; it is cut short, and the empty object is lost. -/
theorem save_truncates :
    (holding "\x7b\x7d").readDocument (Path.ofText "w.json") = .ok (.object []) ∧
      load (holding "\x7b\x7d") "w.json" .empty = .ok bare ∧
      Document.get bare.objects bare.root (.text "") = .ok bare.root ∧
      (Document.set (.text "/me") bare.root).run bare = (.ok (), looped) ∧
      ∃ saved, save (holding "\x7b\x7d") "w.json" looped = (saved, looped) ∧
        saved.fault = some .circular ∧
        saved.disk.look "w.json" = .ok (.file "\x7b\n  \"me\": ".toUTF8.toList) := by
  obtain ⟨place, hput, -, hcut⟩ := save_in_place read_bare looped
  obtain ⟨saved, hsave, hfault, hdisk⟩ := hcut _ write_looped
  refine ⟨read_bare, load_of_readDocument read_bare .empty, rfl, set_looped,
    saved, hsave, hfault, ?_⟩
  rw [hdisk]
  exact Disk.look_write (hput _)

end WorldFile
end NodeWalk
