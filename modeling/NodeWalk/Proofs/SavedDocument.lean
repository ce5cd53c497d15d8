import NodeWalk.Proofs.LoadedTree
import NodeWalk.Proofs.ReadAgain
import NodeWalk.Proofs.Reporting
import NodeWalk.Proofs.WholeTexts
import NodeWalk.Proofs.WrittenFile
import NodeWalk.WorldFile

set_option autoImplicit false

/-!
# Saved documents

A document that was saved is the one that is opened from the file, if no text of it has two
halves of a surrogate pair behind each other: as a tree it is the same at every place, but a
number that is none has lost the way in which it was none. A file that is opened and saved
keeps its value, with one exception: null becomes an empty object.
-/
namespace NodeWalk

def Json.adopted : Json → Json
  | .scalar .null => .object []
  | j => j

theorem Json.adopted_of_ne_null {j : Json} (h : j ≠ .null) : j.adopted = j := by
  unfold adopted
  split
  · exact absurd rfl h
  · rfl

theorem Json.adopted_of {P : Json → Prop} {j : Json} (hj : P j) (hempty : P (.object [])) :
    P j.adopted := by
  unfold adopted
  split
  · exact hempty
  · exact hj

theorem Json.eq_null_of_unfolding {j : Json} (h : j.unfolding = .scalar .null) : j = .null := by
  cases j with
  | scalar a =>
    cases h
    rfl
  | array items => cases h
  | object entries => cases h

theorem Json.eq_null_of_reread {j : Json} (h : j.reread = .null) : j = .null := by
  cases j with
  | scalar a =>
    cases a with
    | null => rfl
    | _ => cases h
  | array items => cases h
  | object entries => cases h

theorem Objects.eq_null_of_unfold {h : Objects} {v : Value}
    (hv : h.unfold v = .scalar .null) : v = .null := by
  cases v with
  | scalar a =>
    cases hv
    rfl
  | ref a =>
    rw [unfold, unfoldIn, List.idxOf?_nil] at hv
    dsimp only at hv
    split at hv
    · cases hv
    · cases hv

theorem Document.adopt_of_ne_null {v : Value} (hv : v ≠ .null) (h : Objects) :
    adopt v h = h.copy v := by
  unfold adopt
  split
  · exact absurd rfl hv
  · rfl

namespace Disk

variable {d : Disk} {p : Path} {j : Json}

theorem readDocument_ok (h : d.readDocument p = .ok j) :
    ∃ cs, d.readText p = .ok cs ∧ Json.read cs = .ok j := by
  obtain ⟨cs, htext, hread⟩ := bind_ok_iff.1 h
  refine ⟨cs, htext, ?_⟩
  cases hr : Json.read cs with
  | ok k =>
    rw [hr] at hread
    cases hread
    rfl
  | error r =>
    rw [hr] at hread
    cases r with
    | malformed what place => cases hread
    | integerTooLong digits => cases hread

theorem readText_ok {cs : List CodePoint} (h : d.readText p = .ok cs) :
    ∃ bytes, d.look p.text = .ok (.file bytes) := by
  unfold readText at h
  split at h
  · cases h
  · cases h
  · exact ⟨_, ‹_›⟩

end Disk

namespace WorldFile

variable {disk : Disk} {path : String} {s t u : Store} {saved : Saved} {j : Json} {h : Objects}

theorem unfold_adopt (j : Json) (h : Objects) :
    (Document.adopt (h.load j).1 (h.load j).2).2.unfold
      (Document.adopt (h.load j).1 (h.load j).2).1 = j.adopted.unfolding := by
  by_cases hj : j = .null
  · subst hj
    have hempty := Objects.unfold_append (h := h) (c := .object []) (List.forall_mem_nil _)
    exact hempty
  · have hv : (h.load j).1 ≠ .null := by
      intro hnull
      have hunfold := Objects.unfold_load j h
      rw [hnull] at hunfold
      exact hj (Json.eq_null_of_unfolding hunfold.symm)
    rw [Document.adopt_of_ne_null hv, Objects.unfold_copy, Objects.unfold_load,
      Json.adopted_of_ne_null hj]

def opened (path : String) (j : Json) (h : Objects) : Store :=
  { ofValue (h.load j).1 (h.load j).2 with
    log := #[⟨.debug, .worldFile,
      "Loaded world document from " ++ (Path.ofText path).text, false⟩] }

theorem load_of_readDocument (hread : disk.readDocument (Path.ofText path) = .ok j)
    (h : Objects) : load disk path h = .ok (opened path j h) := by
  obtain ⟨cs, htext, -⟩ := Disk.readDocument_ok hread
  obtain ⟨bytes, hlook⟩ := Disk.readText_ok htext
  rw [load]
  dsimp only
  rw [hlook]
  dsimp only [bind, Except.bind]
  rw [hread]
  rfl

theorem grounded_opened (path : String) (j : Json) (h : Objects) :
    (opened path j h).objects.Grounded (opened path j h).root :=
  Document.grounded_adopt (Objects.loads j h).2

theorem unfold_opened (path : String) (j : Json) (h : Objects) :
    (opened path j h).objects.unfold (opened path j h).root = j.adopted.unfolding :=
  unfold_adopt j h

/-- What saving does: it stops before the file is open, or the file is written, whole or up
to the place where writing the document stops. -/
theorem save_cases (hsave : save disk path s = (saved, t)) :
    (saved.written = none ∧ saved.fault ≠ none ∧ t = s ∧ disk.Keeps saved.disk) ∨
      ∃ d place, disk.makeDirectories (Path.ofText path).above = (d, none) ∧
        ((∃ text, (s.objects.unfold s.root).write = .ok text ∧ saved.fault = none ∧
          d.write (Path.ofText path).text text.toUTF8.toList = .ok (place, saved.disk)) ∨
        ∃ b, (s.objects.unfold s.root).write = .error b ∧ saved.fault = some b.error.fault ∧
          saved.written = some ⟨Path.ofText path, place, b.written⟩ ∧ t = s ∧
          d.write (Path.ofText path).text b.written.toUTF8.toList = .ok (place, saved.disk)) := by
  unfold save at hsave
  dsimp only at hsave
  split at hsave
  · cases hsave
    exact .inl ⟨rfl, nofun, rfl, Disk.keeps_makeDirectories ‹_›⟩
  · rename_i d hdirectories
    split at hsave
    · cases hsave
      exact .inl ⟨rfl, nofun, rfl, Disk.keeps_makeDirectories hdirectories⟩
    · rename_i place e hwrite
      refine .inr ⟨d, place, hdirectories, ?_⟩
      cases hsave
      cases htext : (s.objects.unfold s.root).write with
      | ok text =>
        rw [htext] at hwrite
        exact .inl ⟨text, rfl, rfl, hwrite⟩
      | error b =>
        rw [htext] at hwrite
        exact .inr ⟨b, rfl, rfl, rfl, rfl, hwrite⟩

/-- What is opened from the file to which a document was saved; null is not a document. -/
theorem load_save_reread (hsave : save disk path s = (saved, t)) (hok : saved.fault = none)
    (hroot : s.root ≠ .null) (hkeys : (s.objects.unfold s.root).Distinct) (h : Objects) :
    ∃ (j : Json) (u : Store), s.objects.unfold s.root = j.unfolding ∧
      load saved.disk path h = .ok u ∧ u.objects.unfold u.root = j.reread.unfolding := by
  obtain ⟨-, hfault, -⟩ | ⟨d, place, -, ⟨text, htext, -, hwrite⟩ | ⟨b, -, hfault, -⟩⟩ :=
    save_cases hsave
  · exact absurd hok hfault
  · obtain ⟨j, hj, hread⟩ := Disk.readDocument_write hkeys htext hwrite
    refine ⟨j, _, hj, load_of_readDocument hread h, ?_⟩
    rw [unfold_opened, Json.adopted_of_ne_null]
    intro hnull
    rw [Json.eq_null_of_reread hnull] at hj
    exact hroot (Objects.eq_null_of_unfold hj)
  · rw [hok] at hfault
    cases hfault

/-- A saved document is opened again as the same tree. No object of the document has a key
twice, and no text of it has the first half of a pair directly before a second one. -/
theorem load_save (hsave : save disk path s = (saved, t)) (hok : saved.fault = none)
    (hroot : s.root ≠ .null) (hkeys : (s.objects.unfold s.root).Distinct)
    (hpairs : (s.objects.unfold s.root).EveryText Text.Unpaired) (h : Objects) :
    ∃ (j : Json) (u : Store), s.objects.unfold s.root = j.unfolding ∧
      load saved.disk path h = .ok u ∧ u.objects.unfold u.root = j.readBack.unfolding := by
  obtain ⟨j, u, hj, hload, hu⟩ := load_save_reread hsave hok hroot hkeys h
  refine ⟨j, u, hj, hload, ?_⟩
  rw [hu, Json.reread_eq (hj ▸ hkeys) (hj ▸ hpairs)]

def drifting : Json :=
  .object [("id", .int (-7)), ("drift", .array [.scalar (.float ⟨0xFFF8000000000001, 5⟩), .null,
    .object []])]

def driftingStore : Store :=
  ofValue (Objects.empty.load drifting).1 (Objects.empty.load drifting).2

theorem load_save_drifting :
    (save (Disk.bare []) "a/w.json" driftingStore).1.fault = none ∧ ∃ u,
      load (save (Disk.bare []) "a/w.json" driftingStore).1.disk "a/w.json" .empty = .ok u ∧
        u.objects.unfold u.root = drifting.readBack.unfolding := by
  have hok : (save (Disk.bare []) "a/w.json" driftingStore).1.fault = none :=
    Option.isNone_iff_eq_none.1 (by decide +kernel)
  have hunfold : driftingStore.objects.unfold driftingStore.root = drifting.unfolding :=
    unfold_adopt drifting .empty
  have hitems : ∀ t ∈ [Unfolding.scalar (.float ⟨0xFFF8000000000001, 5⟩), .scalar .null,
      .object []], t.Distinct ∧ t.EveryText Text.Unpaired := by
    simp only [List.forall_mem_cons]
    exact ⟨⟨.scalar _, .scalar nofun⟩, ⟨.scalar _, .scalar nofun⟩,
      ⟨.object List.nodup_nil (List.forall_mem_nil _),
        .object (List.forall_mem_nil _) (List.forall_mem_nil _)⟩, List.forall_mem_nil _⟩
  have hkeys : drifting.unfolding.Distinct := by
    refine .object (by decide) (List.forall_mem_cons.2 ⟨.scalar _, ?_⟩)
    exact List.forall_mem_singleton.2 (.array fun t ht => (hitems t ht).1)
  have hpairs : drifting.unfolding.EveryText Text.Unpaired := by
    refine .object (by decide +kernel) (List.forall_mem_cons.2 ⟨.scalar nofun, ?_⟩)
    exact List.forall_mem_singleton.2 (.array fun t ht => (hitems t ht).2)
  obtain ⟨j, u, hj, hload, hu⟩ := load_save Prod.mk.eta.symm hok (by decide +kernel)
    (hunfold ▸ hkeys) (hunfold ▸ hpairs) Objects.empty
  refine ⟨hok, u, hload, ?_⟩
  rw [hu, Json.unfolding_injective (hunfold.symm.trans hj)]

def pairing : Json := .object [("s", .text ⟨[.high ⟨0x3D, by decide⟩, .low ⟨0x200, by decide⟩]⟩)]

def pairingStore : Store :=
  ofValue (Objects.empty.load pairing).1 (Objects.empty.load pairing).2

/-- Two halves are saved, and their character is opened. -/
theorem load_save_pairing :
    (save (Disk.bare []) "w.json" pairingStore).1.fault = none ∧
      pairingStore.objects.unfold pairingStore.root = pairing.unfolding ∧
      ∃ u, load (save (Disk.bare []) "w.json" pairingStore).1.disk "w.json" .empty = .ok u ∧
        u.objects.unfold u.root =
          (Json.object [("s", .text ⟨[.char (Char.ofNat 0x1F600)]⟩)]).unfolding ∧
        u.objects.unfold u.root ≠ pairingStore.objects.unfold pairingStore.root := by
  have hok : (save (Disk.bare []) "w.json" pairingStore).1.fault = none :=
    Option.isNone_iff_eq_none.1 (by decide +kernel)
  have hunfold : pairingStore.objects.unfold pairingStore.root = pairing.unfolding :=
    unfold_adopt pairing .empty
  have hkeys : pairing.unfolding.Distinct :=
    .object (by decide) (List.forall_mem_singleton.2 (.scalar _))
  obtain ⟨j, u, hj, hload, hu⟩ := load_save_reread Prod.mk.eta.symm hok (by decide +kernel)
    (hunfold ▸ hkeys) Objects.empty
  rw [← Json.unfolding_injective (hunfold.symm.trans hj)] at hu
  refine ⟨hok, hunfold, u, hload, hu, ?_⟩
  rw [hu, hunfold]
  exact Json.unfolding_injective.ne (by decide +kernel)

theorem save_in_place (hread : disk.readDocument (Path.ofText path) = .ok j) (s : Store) :
    ∃ place, (∀ new, disk.write (Path.ofText path).text new =
        .ok (place, disk.put place (.file new))) ∧
      (∀ text, (s.objects.unfold s.root).write = .ok text → ∃ saved t,
        save disk path s = (saved, t) ∧ saved.fault = none ∧
          saved.disk = disk.put place (.file text.toUTF8.toList)) ∧
      ∀ b, (s.objects.unfold s.root).write = .error b → ∃ saved,
        save disk path s = (saved, s) ∧ saved.fault = some b.error.fault ∧
          saved.disk = disk.put place (.file b.written.toUTF8.toList) := by
  obtain ⟨cs, hcs, -⟩ := Disk.readDocument_ok hread
  obtain ⟨bytes, hlook⟩ := Disk.readText_ok hcs
  obtain ⟨place, hdirectories, hput⟩ := Disk.write_above (Path.tidy_ofText path) hlook
  have hsave := save.eq_1 disk path s
  dsimp only at hsave
  rw [hdirectories] at hsave
  refine ⟨place, hput, fun text htext => ?_, fun b hb => ?_⟩
  · rw [htext] at hsave
    dsimp only at hsave
    rw [hput] at hsave
    exact ⟨_, _, hsave, rfl, rfl⟩
  · rw [hb] at hsave
    dsimp only at hsave
    rw [hput] at hsave
    exact ⟨_, hsave, rfl, rfl⟩

theorem save_of_readDocument (hread : disk.readDocument (Path.ofText path) = .ok j)
    {k : Json} (hdocument : s.objects.unfold s.root = k.unfolding) (hstays : k.Stays)
    (hpairs : k.unfolding.EveryText Text.Unpaired) (hwritable : k.Every Scalar.Writable) :
    ∃ saved t, save disk path s = (saved, t) ∧
      saved.fault = none ∧ saved.disk.readDocument (Path.ofText path) = .ok k := by
  obtain ⟨text, htext⟩ : ∃ text, k.unfolding.write = .ok text := by
    have hwrites := Unfolding.writes_unfolding hwritable 0 "" ""
    cases hw : k.unfolding.write with
    | ok text => exact ⟨text, rfl⟩
    | error b =>
      rw [← Unfolding.write, hw] at hwrites
      exact absurd (fun a ha => ha) hwrites.2
  obtain ⟨place, hput, hwhole, -⟩ := save_in_place hread s
  rw [hdocument] at hwhole
  obtain ⟨saved, t, hsave, hok, hdisk⟩ := hwhole text htext
  obtain ⟨k', hk, hagain⟩ := Disk.readDocument_write hstays.distinct htext (hput _)
  refine ⟨saved, t, hsave, hok, ?_⟩
  rw [hdisk, hagain, ← Json.unfolding_injective hk, Json.reread_eq hstays.distinct hpairs,
    hstays.readBack]

/-- A file that is opened, and saved with the document unchanged, keeps its value, or held
null and holds an empty object then. Halves of surrogate pairs are kept as well, since none that
were read together make a pair; how deep the calls for a nested document may go is not modelled. -/
theorem save_loaded (hread : disk.readDocument (Path.ofText path) = .ok j) (h : Objects) :
    ∃ s, load disk path h = .ok s ∧ ∀ u, s.Keeps u → ∃ saved t, save disk path u = (saved, t) ∧
      saved.fault = none ∧ saved.disk.readDocument (Path.ofText path) = .ok j.adopted := by
  refine ⟨opened path j h, load_of_readDocument hread h, fun u hu => ?_⟩
  obtain ⟨cs, hcs, hj⟩ := Disk.readDocument_ok hread
  have hdocument : u.objects.unfold u.root = j.adopted.unfolding := by
    rw [hu.root, (grounded_opened path j h).has.unfold hu.toKept, unfold_opened]
  have hwritable : j.Every Scalar.Writable :=
    (Json.every_read hj).imp fun _ ha => ha.writable
  refine save_of_readDocument hread hdocument ?_ ?_ ?_
  · exact Json.adopted_of (Json.stays_read hj) ⟨rfl, .object List.nodup_nil (List.forall_mem_nil _)⟩
  · exact Json.adopted_of (P := fun j => j.unfolding.EveryText Text.Unpaired)
      (Json.unpaired_read (Disk.whole_readText hcs) hj)
      (.object (List.forall_mem_nil _) (List.forall_mem_nil _))
  · exact Json.adopted_of hwritable (.object (List.forall_mem_nil _))

def holding (text : String) : Disk :=
  (Disk.bare []).put ["w.json"] (.file text.toUTF8.toList)

def listing : Json :=
  .array [.scalar (.float (.ofDecimal false 1 2)), .object [("a", .array [.bool true])]]

def listed : Disk := holding "[1e2, \x7b\"a\": [true]\x7d]"

theorem save_loaded_listing :
    listed.readDocument (Path.ofText "w.json") = .ok listing ∧
      ∃ s saved t, load listed "w.json" .empty = .ok s ∧
        save listed "w.json" s = (saved, t) ∧ saved.fault = none ∧
        saved.disk.readDocument (Path.ofText "w.json") = .ok listing := by
  have hread : listed.readDocument (Path.ofText "w.json") = .ok listing :=
    ok_of_toOption (by decide +kernel)
  obtain ⟨s, hload, hkept⟩ := save_loaded hread .empty
  obtain ⟨saved, t, hsave, hok, hagain⟩ := hkept s (.refl s)
  exact ⟨hread, s, saved, t, hload, hsave, hok, hagain⟩

/-- Null is read, and an empty object is saved. -/
theorem null_replaced :
    (holding "null").readDocument (Path.ofText "w.json") = .ok .null ∧
      ∃ s saved t, load (holding "null") "w.json" .empty = .ok s ∧
        save (holding "null") "w.json" s = (saved, t) ∧ saved.fault = none ∧
        saved.disk.readDocument (Path.ofText "w.json") = .ok (.object []) := by
  have hread : (holding "null").readDocument (Path.ofText "w.json") = .ok .null :=
    ok_of_toOption (by decide +kernel)
  obtain ⟨saved, t, hsave, hok, hagain⟩ := save_of_readDocument hread
    (unfold_opened "w.json" .null .empty)
    ⟨rfl, .object List.nodup_nil (List.forall_mem_nil _)⟩
    (.object (List.forall_mem_nil _) (List.forall_mem_nil _)) (.object (List.forall_mem_nil _))
  exact ⟨hread, _, saved, t, load_of_readDocument hread .empty, hsave, hok, hagain⟩

end WorldFile
end NodeWalk
