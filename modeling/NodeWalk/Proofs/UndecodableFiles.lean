import NodeWalk.CommandLine.Commands
import NodeWalk.Proofs.LoadedGraph
import NodeWalk.Proofs.SavedDocument

set_option autoImplicit false

/-!
# Files that cannot be decoded

Two kinds of files are read as nothing at all: octets that are no text, and a text with a
numeral that is too long. Loading a graph or a world from such a file stops with a fault that
neither a run nor the disk has. From any other file comes a document, or a fault that has a
name or tells of the file.
-/
namespace NodeWalk

/-- A fault that no command expects: it has no name and does not tell of a file. -/
def Fault.Unexpected (f : Fault) : Prop :=
  f.name? = none ∧ CommandLine.Outcome.isFileFault f = false

theorem Fault.not_unexpected {f : Fault} (hf : CommandLine.Outcome.isFileFault f = true) :
    ¬ f.Unexpected :=
  fun h => Bool.false_ne_true (h.2.symm.trans hf)

theorem Fault.OfGraph.expected {f : Fault} (hf : f.OfGraph) : ¬ f.Unexpected := by
  obtain ⟨g, rfl, -⟩ := hf
  exact fun hf => nomatch hf.1

namespace Path

variable {c : Char} {cs piece : List Char}

theorem mem_of_mem_pieces (hpiece : piece ∈ Pointer.pieces '/' cs) (hc : c ∈ piece) : c ∈ cs := by
  induction cs generalizing piece with
  | nil =>
    rw [List.mem_singleton.1 hpiece] at hc
    exact hc
  | cons d ds ih =>
    unfold Pointer.pieces at hpiece
    split at hpiece
    · obtain rfl | hpiece := List.mem_cons.1 hpiece
      · cases hc
      · exact List.mem_cons_of_mem d (ih hpiece hc)
    · split at hpiece
      · rw [List.mem_singleton.1 hpiece] at hc
        exact List.mem_cons.2 (.inl (List.mem_singleton.1 hc))
      · rename_i q qs hpieces
        rw [hpieces] at ih
        obtain rfl | hpiece := List.mem_cons.1 hpiece
        · obtain rfl | hc := List.mem_cons.1 hc
          · exact List.mem_cons_self
          · exact List.mem_cons_of_mem d (ih List.mem_cons_self hc)
        · exact List.mem_cons_of_mem d (ih (List.mem_cons_of_mem q hpiece) hc)

theorem notMem_intercalate {ss : List String} (hslash : c ≠ '/') (hss : ∀ s ∈ ss, c ∉ s.toList) :
    c ∉ ("/".intercalate ss).toList := by
  induction ss with
  | nil => exact List.not_mem_nil
  | cons s ss ih =>
    obtain ⟨hs, hothers⟩ := List.forall_mem_cons.1 hss
    by_cases hne : ss = []
    · rw [hne, String.intercalate_singleton]
      exact hs
    · rw [String.intercalate_cons_of_ne_nil hne, String.toList_append, String.toList_append,
        List.mem_append, List.mem_append, not_or, not_or]
      exact ⟨⟨hs, by simpa using hslash⟩, ih hothers⟩

theorem notMem_text {path : String} (hslash : c ≠ '/') (hdot : c ≠ '.')
    (hpath : c ∉ path.toList) : c ∉ (ofText path).text.toList := by
  have hlead : c ∉ (ofText path).lead.toList := by
    obtain hlead | hlead | hlead := (tidy_ofText path).lead
    · rw [hlead]
      exact List.not_mem_nil
    · rw [hlead]
      simpa using hslash
    · rw [hlead]
      simpa using hslash
  have hsteps : ∀ s ∈ (ofText path).steps, c ∉ s.toList := by
    intro s hs hc
    obtain ⟨piece, hpiece, rfl⟩ := List.mem_map.1 (List.mem_filter.1 hs).1
    rw [String.toList_ofList] at hc
    exact hpath (mem_of_mem_pieces hpiece hc)
  unfold text
  dsimp only
  split
  · simpa using hdot
  · rw [String.toList_append, List.mem_append, not_or]
    exact ⟨hlead, notMem_intercalate hslash hsteps⟩

end Path

namespace Disk

variable {d : Disk} {p : Path} {path : String} {f : Fault}

theorem enter_ne_nulCharacter (q : Place) (step : String) :
    d.enter q step ≠ .error .nulCharacter := by
  unfold enter
  split
  · nofun
  · nofun
  · split
    · nofun
    · split
      · nofun
      · split <;> nofun

theorem look_ne_nulCharacter (hpath : '\x00' ∉ path.toList) :
    d.look path ≠ .error .nulCharacter := by
  have hsteps (steps : List String) (q : Place) :
      steps.foldlM d.enter q ≠ .error .nulCharacter := by
    induction steps generalizing q with
    | nil => nofun
    | cons step steps ih =>
      rw [List.foldlM_cons]
      intro h
      obtain hfirst | ⟨r, -, hbehind⟩ := bind_error_iff.1 h
      · exact enter_ne_nulCharacter q step hfirst
      · exact ih r hbehind
  intro h
  obtain hfollow | ⟨place, -, hitem⟩ := bind_error_iff.1 h
  · unfold follow at hfollow
    rw [if_neg (by simpa using hpath)] at hfollow
    split at hfollow
    · cases hfollow
    · split at hfollow
      · cases hfollow
      · exact hsteps _ _ hfollow
  · split at hitem
    · cases hitem
    · cases hitem

/-- The file at the path is no text, or a text with a numeral that is too long. -/
inductive Undecodable (d : Disk) (p : Path) : Fault → Prop where
  | octets {bytes : List UInt8} {u : Text.Utf8Fault} (file : d.look p.text = .ok (.file bytes))
      (stray : Text.decodeUtf8 bytes = .error u) : Undecodable d p (.notUtf8 u)
  | numeral {bytes : List UInt8} {cs : List CodePoint} {digits : Nat}
      (file : d.look p.text = .ok (.file bytes)) (text : Text.decodeUtf8 bytes = .ok cs)
      (long : Json.read (Text.unifyLines cs) = .error (.integerTooLong digits)) :
      Undecodable d p (.numeralTooLong digits)

theorem Undecodable.unexpected (h : d.Undecodable p f) : f.Unexpected := by
  cases h <;> exact ⟨rfl, rfl⟩

theorem Undecodable.readDocument (h : d.Undecodable p f) : d.readDocument p = .error f := by
  cases h with
  | octets file stray => exact readDocument_notUtf8 file stray
  | numeral file text long => rw [readDocument_utf8 file text, long]

theorem Undecodable.look (h : d.Undecodable p f) : ∃ bytes, d.look p.text = .ok (.file bytes) := by
  cases h with
  | octets file _ => exact ⟨_, file⟩
  | numeral file _ _ => exact ⟨_, file⟩

/-- What keeps a document from being read is told of the file, or the file is at fault. -/
theorem undecodable_of_readDocument (hnul : d.look p.text ≠ .error .nulCharacter)
    (h : d.readDocument p = .error f) (hf : f.Unexpected) : d.Undecodable p f := by
  cases hlook : d.look p.text with
  | error problem =>
    have hread : d.readDocument p = .error (.file problem p.text) := by
      rw [Disk.readDocument, readText, hlook]
      rfl
    rw [hread] at h
    cases h
    cases problem with
    | nulCharacter => exact absurd hlook hnul
    | _ => exact absurd hf (Fault.not_unexpected rfl)
  | ok item =>
    cases item with
    | directory =>
      have hread : d.readDocument p = .error (.file .isDirectory p.text) := by
        rw [Disk.readDocument, readText, hlook]
        rfl
      rw [hread] at h
      cases h
      exact absurd hf (Fault.not_unexpected rfl)
    | file bytes =>
      cases hdecode : Text.decodeUtf8 bytes with
      | error u =>
        rw [readDocument_notUtf8 hlook hdecode] at h
        cases h
        exact .octets hlook hdecode
      | ok cs =>
        rw [readDocument_utf8 hlook hdecode] at h
        cases hjson : Json.read (Text.unifyLines cs) with
        | ok j => rw [hjson] at h; cases h
        | error r =>
          rw [hjson] at h
          cases r with
          | malformed what place =>
            cases h
            exact absurd hf (Fault.not_unexpected rfl)
          | integerTooLong digits =>
            cases h
            exact .numeral hlook hdecode hjson

end Disk

variable {disk : Disk} {path : String} {h h' : Objects} {f : Fault}

namespace Graph

theorem load_of_undecodable (hu : disk.Undecodable (Path.ofText path) f) (h : Objects) :
    load disk path h = (.error f, h) := by
  refine load_of_fault hu.readDocument (fun what place hf => ?_) h
  cases hf ▸ hu

theorem writable_of_readDocument {j : Json} {p : Path} (hread : disk.readDocument p = .ok j)
    (h : Objects) : (h.load j).2.Every Scalar.Writable (h.load j).1 := by
  obtain ⟨cs, -, hj⟩ := Disk.readDocument_ok hread
  exact Objects.every_load ((Json.every_read hj).imp fun _ ha => ha.writable) h

/-- A graph is parsed from the document of the file. Where there is none, the fault is one of
the graph or what keeps the file from being read. -/
theorem load_cases (disk : Disk) (path : String) (h : Objects) :
    (∃ j, disk.readDocument (Path.ofText path) = .ok j ∧
      load disk path h = (parse (h.load j).2 (h.load j).1, (h.load j).2)) ∨
    ∃ f, load disk path h = (.error f, h) ∧
      (f.OfGraph ∨ disk.readDocument (Path.ofText path) = .error f) := by
  cases hread : disk.readDocument (Path.ofText path) with
  | ok j => exact .inl ⟨j, rfl, load_of_document hread h⟩
  | error f =>
    by_cases hjson : ∃ what place, f = .notJson what place
    · obtain ⟨what, place, rfl⟩ := hjson
      exact .inr ⟨_, load_of_notJson hread h, .inl ⟨_, rfl, rfl⟩⟩
    · exact .inr ⟨f, load_of_fault hread (fun what place hf => hjson ⟨what, place, hf⟩) h, .inr rfl⟩

/-- A graph that is not loaded has a fault with a name, or the file cannot be decoded. -/
theorem undecodable_of_load (hpath : '\x00' ∉ path.toList)
    (hload : load disk path h = (.error f, h')) (hf : f.Unexpected) :
    disk.Undecodable (Path.ofText path) f := by
  obtain ⟨j, hread, hparse⟩ | ⟨g, hg, hgraph | hread⟩ := load_cases disk path h
  · rw [hparse] at hload
    obtain ⟨hload, -⟩ := Prod.mk.inj hload
    exact absurd hf (ofGraph_parse (writable_of_readDocument hread h) hload).expected
  · rw [hg] at hload
    cases hload
    exact absurd hf hgraph.expected
  · rw [hg] at hload
    cases hload
    refine Disk.undecodable_of_readDocument (Disk.look_ne_nulCharacter ?_) hread hf
    exact Path.notMem_text (by decide) (by decide) hpath

theorem read_of_load {g : Graph} (hload : load disk path h = (.ok g, h')) :
    ∀ n ∈ g.nodes, n.Read := by
  obtain ⟨j, hread, hparse⟩ | ⟨f, hf, -⟩ := load_cases disk path h
  · rw [hparse] at hload
    exact read_nodes (writable_of_readDocument hread h) (congrArg Prod.fst hload)
  · rw [hf] at hload
    cases hload

end Graph

namespace WorldFile

theorem load_of_undecodable (hu : disk.Undecodable (Path.ofText path) f) (h : Objects) :
    load disk path h = .error f := by
  obtain ⟨bytes, hlook⟩ := hu.look
  unfold load
  dsimp only
  rw [hlook]
  dsimp only [bind, Except.bind]
  rw [hu.readDocument]

theorem undecodable_of_load (hload : load disk path h = .error f) (hf : f.Unexpected) :
    disk.Undecodable (Path.ofText path) f := by
  unfold load at hload
  dsimp only at hload
  split at hload
  · cases hload
    exact absurd hf (Fault.not_unexpected rfl)
  · cases hload
  · rename_i item hlook
    obtain hread | ⟨j, -, hend⟩ := bind_error_iff.1 hload
    · refine Disk.undecodable_of_readDocument (fun hnul => ?_) hread hf
      rw [hlook] at hnul
      cases hnul
    · cases hend

end WorldFile
end NodeWalk
