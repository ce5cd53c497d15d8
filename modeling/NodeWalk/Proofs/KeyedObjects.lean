import NodeWalk.Proofs.ReadAgain
import NodeWalk.Proofs.SavedDocument

set_option autoImplicit false

/-!
# Keys of stored objects

No object in a store has a key twice: loading a text gives none that has, and a write leaves
none. So the documents that a store over a file can hold are trees with different keys.
-/
namespace NodeWalk

def Cell.Keyed : Cell → Prop
  | .array _ => True
  | .object entries => (Entries.keys entries).Nodup

instance : (c : Cell) → Decidable c.Keyed
  | .array _ => .isTrue trivial
  | .object entries => inferInstanceAs (Decidable (Entries.keys entries).Nodup)

theorem Cell.keyed_write {c : Cell} (hc : c.Keyed) (w : Value) (p : Slot) :
    (c.write w p).Keyed := by
  unfold write
  split
  · exact Entries.nodup_set hc _ w
  · trivial
  · exact hc

theorem Cell.keyed_map {c : Cell} (hc : c.Keyed) (f : Value → Value) : (c.map f).Keyed := by
  cases c with
  | array items => trivial
  | object entries =>
    have hkeys : Entries.keys (entries.map fun e => (e.1, f e.2)) = Entries.keys entries := by
      rw [Entries.keys, List.map_map]
      rfl
    rw [map, Keyed, hkeys]
    exact hc

namespace Objects

def Keyed (h : Objects) : Prop := ∀ c ∈ h.cells, c.Keyed

instance (h : Objects) : Decidable h.Keyed := inferInstanceAs (Decidable (∀ c ∈ h.cells, c.Keyed))

variable {h : Objects}

theorem keyed_empty : empty.Keyed := fun _ hc => nomatch hc

theorem Keyed.cell (hh : h.Keyed) (a : Addr) : (h.cell a).Keyed := by
  by_cases ha : a < h.cells.size
  · rw [Objects.cell, Array.getD_eq_getD_getElem?, Array.getElem?_eq_getElem ha]
    exact hh _ (Array.getElem_mem ha)
  · rw [cell_of_size_le (Nat.le_of_not_lt ha)]
    trivial

theorem Keyed.append (hh : h.Keyed) {cs : List Cell} (hcs : ∀ c ∈ cs, c.Keyed) :
    (h.append cs).Keyed := by
  intro c hc
  obtain hc | hc := Array.mem_append.1 hc
  · exact hh c hc
  · exact hcs c (List.mem_toArray.1 hc)

theorem Keyed.put (hh : h.Keyed) {c : Cell} (hc : c.Keyed) (a : Addr) : (h.put a c).Keyed := by
  intro d hd
  obtain hd | rfl := Array.mem_or_eq_of_mem_setIfInBounds hd
  · exact hh d hd
  · exact hc

theorem Keyed.copy (hh : h.Keyed) (v : Value) : (h.copy v).2.Keyed := by
  refine hh.append (List.forall_mem_map.2 fun a _ => ?_)
  exact Cell.keyed_map (hh.cell a) _

theorem Keyed.distinct_unfoldIn (hh : h.Keyed) (depth : Nat) (outer : List Addr) (v : Value) :
    (h.unfoldIn depth outer v).Distinct := by
  induction depth generalizing outer v with
  | zero =>
    cases v with
    | scalar s => exact .scalar s
    | ref a => exact .back _ _
  | succ depth ih =>
    cases v with
    | scalar s => exact .scalar s
    | ref a =>
      have ha := hh.cell a
      rw [unfoldIn]
      cases outer.idxOf? a with
      | some i => exact .back _ _
      | none =>
        cases hc : h.cell a with
        | array items => exact .array (List.forall_mem_map.2 fun x _ => ih _ x)
        | object entries =>
          rw [hc] at ha
          refine .object ?_ (List.forall_mem_map.2 fun e _ => ih _ e.2)
          rw [Entries.keys, List.map_map]
          exact ha

theorem Keyed.distinct (hh : h.Keyed) (v : Value) : (h.unfold v).Distinct :=
  hh.distinct_unfoldIn _ [] v

theorem keys_loadMembers (entries : List (Text × Json)) (h : Objects) :
    Entries.keys (h.loadMembers entries).1 = Entries.keys entries := by
  induction entries generalizing h with
  | nil => rfl
  | cons e es ih => exact congrArg (e.1 :: ·) (ih (h.load e.2).2)

theorem keyed_loadItems {items : List Json}
    (hitems : ∀ j ∈ items, ∀ h : Objects, h.Keyed → (h.load j).2.Keyed) (hh : h.Keyed) :
    (h.loadItems items).2.Keyed := by
  induction items generalizing h with
  | nil => exact hh
  | cons j js ih =>
    obtain ⟨hj, hjs⟩ := List.forall_mem_cons.1 hitems
    exact ih hjs (hj h hh)

theorem keyed_loadMembers {entries : List (Text × Json)}
    (hentries : ∀ e ∈ entries, ∀ h : Objects, h.Keyed → (h.load e.2).2.Keyed) (hh : h.Keyed) :
    (h.loadMembers entries).2.Keyed := by
  induction entries generalizing h with
  | nil => exact hh
  | cons e es ih =>
    obtain ⟨he, hes⟩ := List.forall_mem_cons.1 hentries
    exact ih hes (he h hh)

theorem Keyed.load {j : Json} (hj : j.unfolding.Distinct) (hh : h.Keyed) :
    (h.load j).2.Keyed := by
  induction j using Json.induct generalizing h with
  | scalar s => exact hh
  | array items ih =>
    rw [Json.unfolding, Json.unfoldings_eq] at hj
    cases hj with
    | array hitems =>
      have hload : h.load (.array items) =
          newArray (h.loadItems items).1 (h.loadItems items).2 := rfl
      rw [hload, newArray_eq]
      have hkeyed : (h.loadItems items).2.Keyed :=
        keyed_loadItems (fun j hj h hh => ih j hj (hitems _ (List.mem_map_of_mem hj)) hh) hh
      exact hkeyed.append (List.forall_mem_singleton.2 trivial)
  | object entries ih =>
    rw [Json.unfolding] at hj
    cases hj with
    | object hkeys hentries =>
      rw [Json.keys_memberUnfoldings] at hkeys
      rw [Json.memberUnfoldings_eq] at hentries
      have hload : h.load (.object entries) =
          newObject (h.loadMembers entries).1 (h.loadMembers entries).2 := rfl
      rw [hload, newObject_eq]
      have hkeyed : (h.loadMembers entries).2.Keyed :=
        keyed_loadMembers
          (fun e he h hh => ih e he (hentries _ (List.mem_map_of_mem he)) hh) hh
      refine hkeyed.append (List.forall_mem_singleton.2 ?_)
      rw [Cell.Keyed, keys_loadMembers]
      exact hkeys

theorem Keyed.adopt (hh : h.Keyed) (v : Value) : (Document.adopt v h).2.Keyed := by
  by_cases hv : v = .null
  · subst hv
    have hempty : (h.append [.object []]).Keyed :=
      hh.append (List.forall_mem_singleton.2 List.nodup_nil)
    rw [Document.adopt, newObject_eq]
    exact hempty
  · rw [Document.adopt_of_ne_null hv]
    exact hh.copy v

end Objects

namespace Document

theorem keyed_chain {w : Value} {base : Nat} {tokens : List Text} :
    ∀ c ∈ chain w base tokens, c.Keyed := by
  induction tokens generalizing base with
  | nil => exact List.forall_mem_nil _
  | cons token tokens ih => exact List.forall_mem_cons.2 ⟨List.nodup_singleton token, ih⟩

theorem Site.keyed_write {h : Objects} (hh : h.Keyed) (p : Site) (w : Value) :
    (p.write w h).Keyed :=
  (hh.put (Cell.keyed_write (hh.cell p.cell) _ p.slot) p.cell).append keyed_chain

theorem keyed_set {path w : Value} {s t : Store} {r : Except Fault Unit}
    (hset : (set path w).run s = (r, t)) (hs : s.objects.Keyed) : t.objects.Keyed := by
  cases outcome_of_run_set hset with
  | refused => exact hs
  | replaced => exact hs
  | stored => exact Site.keyed_write hs _ w
  | unreported => exact Site.keyed_write hs _ w

end Document

namespace WorldFile

/-- The stores that a file is opened with, and those after any writes to them, of values that
were read from them or made beside them. -/
inductive Held (path : String) : Store → Prop where
  | opened {disk : Disk} {h : Objects} {s : Store} (keyed : h.Keyed)
    (load : load disk path h = .ok s) : Held path s
  | beside {s : Store} {g : Objects} (before : Held path s) (kept : s.objects.Kept g)
    (keyed : g.Keyed) : Held path (s.withObjects g)
  | written {s t : Store} {pointer w : Value} {r : Except Fault Unit} (before : Held path s)
    (set : (Document.set pointer w).run s = (r, t)) : Held path t

variable {disk : Disk} {path : String} {s : Store} {h : Objects}

theorem keyed_load (hh : h.Keyed) (hload : load disk path h = .ok s) : s.objects.Keyed := by
  unfold load at hload
  dsimp only at hload
  split at hload
  · cases hload
  · cases hload
    exact hh.adopt .null
  · obtain ⟨j, hread, hok⟩ := bind_ok_iff.1 hload
    cases hok
    obtain ⟨cs, -, hj⟩ := Disk.readDocument_ok hread
    exact (hh.load (Json.stays_read hj).distinct).adopt _

theorem Held.keyed (hs : Held path s) : s.objects.Keyed := by
  induction hs with
  | opened keyed load => exact keyed_load keyed load
  | beside _ _ keyed => exact keyed
  | written before set ih => exact Document.keyed_set set ih

theorem Held.distinct (hs : Held path s) : (s.objects.unfold s.root).Distinct :=
  hs.keyed.distinct s.root

end WorldFile
end NodeWalk
