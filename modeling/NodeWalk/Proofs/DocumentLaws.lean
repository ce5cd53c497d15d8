import NodeWalk.Proofs.FailedRun
import NodeWalk.Proofs.FailedWrite
import NodeWalk.Proofs.PointerTokens
import NodeWalk.Proofs.WayToSite

set_option autoImplicit false

/-!
# Laws of reading and writing

Reading and writing a document fit each other. What was written at a pointer is read
there, the last of two writes at one pointer decides, and to write what is read changes
nothing. The dash of an array stands for another place after each write, so it has a law
of its own.
-/
namespace NodeWalk.Document

variable {s t : Store} {h : Objects} {path base last : Text} {tokens : List Text}
  {u v w x : Value} {n : Nat}

theorem get_text (h : Objects) (root : Value) (path : Text) :
    get h root (.text path) = (Pointer.tokens path).bind fun ts => walk h path ts root := rfl

theorem get_of_tokens {ts : List Text} (hp : Pointer.tokens path = .ok ts) (root : Value) :
    get h root (.text path) = walk h path ts root := by
  rw [get_text, hp]
  rfl

theorem exists_of_get_ok {root : Value} (hget : get h root (.text path) = .ok x) :
    ∃ ts, Pointer.tokens path = .ok ts ∧ walk h path ts root = .ok x := by
  rw [get_text] at hget
  exact bind_ok_iff.1 hget

structure Appends (s : Store) (path base : Text) (n : Nat) : Prop where
  path_eq : path = base ++ "/" ++ "-"
  array : ∃ a items, get s.objects s.root (.text base) = .ok (.ref a) ∧
    s.objects.cell a = .array items ∧ items.length = n

def NoDash (h : Objects) (path last : Text) (tokens : List Text) (v : Value) : Prop :=
  ∀ a items, walk h path tokens v = .ok (.ref a) → h.cell a = .array items → last ≠ "-"

theorem noDash_of_not_appends (hpath : Pointer.tokens path = .ok (tokens ++ [last]))
    (hno : ∀ base n, ¬ Appends s path base n) : NoDash s.objects path last tokens s.root := by
  rintro a items hw hc rfl
  obtain ⟨base, piece, rfl, -, hbase, hpiece⟩ := Pointer.exists_of_tokens_concat hpath
  obtain rfl := Pointer.eq_dash_of_decode hpiece.symm
  refine hno base items.length ⟨rfl, a, items, ?_, hc, rfl⟩
  rw [get_of_tokens hbase]
  exact walk_of_walk hw base

theorem Site.write_concat (c : Addr) (p : Slot) (more : List Text) (last : Text) (v : Value)
    (h : Objects) : Site.write ⟨c, p, more ++ [last]⟩ v h =
      ((h.put c ((h.cell c).write (.ref h.cells.size) p)).append
        (chain (.ref (h.cells.size + more.length)) h.cells.size more)).append
          [.object [(last, v)]] := by
  have hfront : front v h.cells.size (more ++ [last]) = .ref h.cells.size := by
    cases more <;> rfl
  rw [write, value, hfront, chain_concat, ← Objects.append_append]

theorem Site.write_write_concat (c : Addr) (p : Slot) (more : List Text) (last : Text)
    (v w : Value) (h : Objects) :
    Site.write ⟨h.cells.size + more.length, .key last, []⟩ w
        (Site.write ⟨c, p, more ++ [last]⟩ v h) = Site.write ⟨c, p, more ++ [last]⟩ w h := by
  rw [Site.write_concat, Site.write_concat]
  generalize hlinks : (h.put c ((h.cell c).write (.ref h.cells.size) p)).append
    (chain (.ref (h.cells.size + more.length)) h.cells.size more) = links
  have hsize : links.cells.size = h.cells.size + more.length := by
    rw [← hlinks, Objects.size_append, Objects.size_put, length_chain]
  have hcell : (links.append [.object [(last, v)]]).cell links.cells.size =
      .object [(last, v)] :=
    Objects.cell_append_self links _
  have hlast : (Cell.object [(last, v)]).write w (.key last) = .object [(last, w)] := by
    simp [Cell.write, Entries.set]
  rw [← hsize, write, value, front, chain, Objects.append_nil, hcell, hlast,
    Objects.put_append_last]

theorem Site.found_again {way : List Text} {c : Addr} (walked : walk h path way u = .ok (.ref c))
    (hhas : h.Has u) (hacyclic : h.Acyclic u) (v : Value) (q : Slot) (missing : List Text) :
    walk (Site.write ⟨c, q, missing⟩ v h) path way u = .ok (.ref c) ∧
      (Site.write ⟨c, q, missing⟩ v h).cell c =
        (h.cell c).write (front v h.cells.size missing) q :=
  have hc : c < h.cells.size := hhas c (refs_of_walk walked c (List.mem_singleton.2 rfl))
  ⟨walk_beside (beside_write _ v h) hhas hacyclic walked, cell_write_self hc⟩

/-- After a write the same tokens lead to a site again, where another value takes the
place of the first. -/
theorem site_again {p : Site} (hp : site h path last tokens u = .ok p) (hhas : h.Has u)
    (hacyclic : h.Acyclic u) (hdash : NoDash h path last tokens u) (v : Value) :
    ∃ p', site (p.write v h) path last tokens u = .ok p' ∧
      ∀ w, p'.write w (p.write v h) = p.write w h := by
  have hlinked := p.linked v h
  cases leads_of_site hp with
  | @all _ c q walked slot =>
    obtain ⟨hway, hcell⟩ := Site.found_again walked hhas hacyclic v q []
    rw [front] at hcell
    refine ⟨⟨c, q, []⟩, ?_, fun w => ?_⟩
    · have hslot : Cell.slot path last true ((h.cell c).write v q) = .ok q :=
        Cell.slot_write_self slot (fun items hitems => hdash c items walked hitems) true
      rw [site_of_walk hway, site, hcell, hslot]
      rfl
    · rw [Site.write, hcell]
      simp only [Site.write, Site.value, front, chain, Objects.append_nil, Objects.put_put,
        Cell.write_write slot]
  | @some way more c token entries walked cell missing =>
    obtain ⟨hway, hwritten⟩ :=
      Site.found_again walked hhas hacyclic v (.key token) (more ++ [last])
    refine ⟨_, ?_, fun w => Site.write_write_concat c (.key token) more last v w h⟩
    generalize Site.write ⟨c, .key token, more ++ [last]⟩ v h = g at hway hwritten hlinked ⊢
    have hlinks : Linked g (.ref (h.cells.size + more.length)) h.cells.size more := by
      intro i hi
      have hlen : i < (chain v h.cells.size (more ++ [last])).length := by
        rw [length_chain, List.length_append]
        rw [length_chain] at hi
        omega
      rw [hlinked i hlen]
      simp only [chain_concat, List.getElem_append_left hi]
    have hend : g.cell (h.cells.size + more.length) = .object [(last, v)] := by
      have hlen : more.length < (chain v h.cells.size (more ++ [last])).length := by
        rw [length_chain, List.length_append]
        exact Nat.lt_succ_self _
      rw [hlinked _ hlen]
      simp [chain_concat, length_chain]
    have hcell : g.cell c = .object (Entries.set token (.ref h.cells.size) entries) := by
      rw [hwritten, cell, Cell.write]
      cases more <;> rfl
    have hstep : site g path last (token :: more) (.ref c) =
        site g path last more (.ref h.cells.size) := by
      refine site_step (s := .key token) (by rw [hcell]; rfl) ?_ more
      rw [hcell]
      exact Entries.get?_set_self token _ entries
    have hmore := walk_chain hlinks path
    rw [front_ref] at hmore
    rw [site_append hway, hstep, site_of_walk hmore, site, hend]
    rfl

theorem walk_write {p : Site} (hp : site h path last tokens u = .ok p) (hhas : h.Has u)
    (hacyclic : h.Acyclic u) (hdash : NoDash h path last tokens u) (v : Value) :
    walk (p.write v h) path (tokens ++ [last]) u = .ok v := by
  have hlinked := p.linked v h
  cases leads_of_site hp with
  | @all _ c q walked slot =>
    obtain ⟨hway, hcell⟩ := Site.found_again walked hhas hacyclic v q []
    rw [front] at hcell
    have hslot : Cell.slot path last false ((h.cell c).write v q) = .ok q :=
      Cell.slot_write_self slot (fun items hitems => hdash c items walked hitems) false
    rw [walk_append hway]
    refine walk_step (s := q) ?_ ?_ []
    · rw [hcell, hslot]
    · rw [hcell]
      exact Cell.at?_write_self slot
  | @some way more c token entries walked cell missing =>
    obtain ⟨hway, hcell⟩ := Site.found_again walked hhas hacyclic v (.key token) (more ++ [last])
    rw [cell] at hcell
    rw [List.append_assoc, walk_append hway, List.cons_append]
    refine (walk_step (s := .key token) ?_ ?_ _).trans (walk_chain hlinked path)
    · rw [hcell]
      rfl
    · rw [hcell]
      exact Entries.get?_set_self token _ entries

theorem walk_write_dash {p : Site} {a : Addr} {items : List Value}
    (hp : site h path "-" tokens u = .ok p) (hhas : h.Has u) (hacyclic : h.Acyclic u)
    (hw : walk h path tokens u = .ok (.ref a)) (hc : h.cell a = .array items)
    (hn : Numeral.writable items.length = true) (v : Value) (path' : Text) :
    walk (p.write v h) path' (tokens ++ [Text.ofString (toString items.length)]) u = .ok v := by
  obtain rfl : p = ⟨a, .item items.length, []⟩ := by
    rw [site_of_walk hw, site, hc] at hp
    exact (Except.ok.inj hp).symm
  obtain ⟨hway, hcell⟩ := Site.found_again hw hhas hacyclic v (.item items.length) []
  rw [hc, front, Cell.write, if_pos rfl] at hcell
  rw [walk_append (walk_of_walk hway path')]
  refine walk_step (s := .item items.length) ?_ ?_ []
  · rw [hcell]
    refine Cell.slot_array_ok_iff.2 ⟨_, rfl, index_ok_iff.2 (.inr ⟨names_toString hn, ?_⟩)⟩
    simp
  · rw [hcell]
    simp [Cell.at?]

theorem site_of_read (hw : walk h path (tokens ++ [last]) u = .ok x) :
    ∃ c q, site h path last tokens u = .ok ⟨c, q, []⟩ ∧ (h.cell c).at? q = some x := by
  obtain ⟨y, hy, hx⟩ := exists_of_walk_append hw
  obtain ⟨c, q, z, rfl, hq, hz, hx⟩ := walk_cons_ok hx
  cases hx
  refine ⟨c, q, ?_, hz⟩
  rw [site_of_walk hy, site, Cell.slot_append_of_slot hq]
  rfl

theorem every_of_walk {P : Scalar → Prop} (hu : h.Every P u)
    (hw : walk h path tokens u = .ok x) : h.Every P x where
  self a ha := by
    subst ha
    rcases List.eq_nil_or_concat tokens with rfl | ⟨init, last, rfl⟩
    · exact hu.self a (Except.ok.inj hw)
    · rw [List.concat_eq_append] at hw
      obtain ⟨y, hy, hx⟩ := exists_of_walk_append hw
      obtain ⟨c, q, z, rfl, -, hz, hx⟩ := walk_cons_ok hx
      cases hx
      exact hu.inside c (refs_of_walk hy c (List.mem_singleton.2 rfl)) a
        (Cell.mem_values_of_at? hz)
  inside b hb := hu.inside b (Objects.reach_mono (refs_of_walk hw) b hb)

theorem get_after_set (hset : (set (.text path) v).run s = (.ok (), t))
    (hhas : s.objects.Has s.root) (hacyclic : s.objects.Acyclic s.root)
    (hno : ∀ base n, ¬ Appends s path base n) :
    get t.objects t.root (.text path) = .ok v := by
  obtain ⟨hpath, hobjects, hroot⟩ | ⟨tokens, last, p, hpath, hp, hobjects, hroot⟩ :=
    exists_of_set_ok hset
  · rw [get_of_tokens hpath, hroot]
    rfl
  · rw [get_of_tokens hpath, hobjects, hroot]
    exact walk_write hp hhas hacyclic (noDash_of_not_appends hpath hno) v

theorem get_after_set_dash (hset : (set (.text path) v).run s = (.ok (), t))
    (hhas : s.objects.Has s.root) (hacyclic : s.objects.Acyclic s.root)
    (happends : Appends s path base n) (hn : Numeral.writable n = true) :
    get t.objects t.root (.text (base ++ "/" ++ toString n)) = .ok v := by
  obtain ⟨rfl, a, items, hget, hc, rfl⟩ := happends
  obtain ⟨ts, hbase, hw⟩ := exists_of_get_ok hget
  have hdash : Pointer.tokens (base ++ "/" ++ "-") = .ok (ts ++ [Text.ofString "-"]) :=
    Pointer.tokens_below hbase (by decide)
  have hslash : .char '/' ∉ (Text.ofString (toString items.length)).points := fun hm =>
    absurd (Text.isDigit_of_mem_toString hm) (by decide)
  have htilde : .char '~' ∉ (Text.ofString (toString items.length)).points := fun hm =>
    absurd (Text.isDigit_of_mem_toString hm) (by decide)
  have hindex := Pointer.tokens_below hbase hslash
  rw [Pointer.decode_of_not_mem htilde] at hindex
  obtain ⟨hpath, -, -⟩ | ⟨tokens, last, p, hpath, hp, hobjects, hroot⟩ := exists_of_set_ok hset
  · rw [hdash] at hpath
    exact absurd (Except.ok.inj hpath) (List.append_ne_nil_of_right_ne_nil _ (by simp))
  · rw [hdash] at hpath
    obtain ⟨rfl, hlast⟩ := List.append_inj' (Except.ok.inj hpath) rfl
    obtain rfl := (List.cons.inj hlast).1
    rw [get_of_tokens hindex, hobjects, hroot]
    exact walk_write_dash hp hhas hacyclic (walk_of_walk hw _) hc hn v _

theorem set_after_set (hset : (set (.text path) v).run s = (.ok (), t))
    (hhas : s.objects.Has s.root) (hacyclic : s.objects.Acyclic s.root)
    (hno : ∀ base n, ¬ Appends s path base n) (w : Value) :
    ((set (.text path) w).run t).1 = ((set (.text path) w).run s).1 ∧
      ((set (.text path) w).run s).2.SameDocument ((set (.text path) w).run t).2 := by
  obtain ⟨hpath, hobjects, hroot⟩ | ⟨tokens, last, p, hpath, hp, hobjects, hroot⟩ :=
    exists_of_set_ok hset
  · rw [run_set_root hpath, run_set_root hpath]
    exact ⟨rfl, hobjects, rfl⟩
  · obtain ⟨p', hp', hwrite⟩ := site_again hp hhas hacyclic (noDash_of_not_appends hpath hno) v
    rw [run_set_place hpath, run_set_place hpath, hobjects, hroot, hp, hp']
    simp only [hwrite]
    cases (p.write w s.objects).shown? w with
    | none => exact ⟨rfl, rfl, hroot⟩
    | some text => exact ⟨rfl, rfl, hroot⟩

theorem set_of_get (hget : get s.objects s.root (.text path) = .ok x)
    (hw : s.objects.Writable w) : ∃ t, (set (.text path) w).run s = (.ok (), t) ∧
      (w = x → s.SameDocument t) := by
  obtain ⟨ts, hpath, hwalk⟩ := exists_of_get_ok hget
  rcases List.eq_nil_or_concat ts with rfl | ⟨tokens, last, rfl⟩
  · exact ⟨_, run_set_root hpath w s, fun he => ⟨rfl, he.trans (Except.ok.inj hwalk).symm⟩⟩
  · rw [List.concat_eq_append] at hpath hwalk
    obtain ⟨c, q, hp, hx⟩ := site_of_read hwalk
    obtain ⟨text, htext⟩ := Option.isSome_iff_exists.1
      (Objects.isSome_shown?_of_writable (Site.every_write ⟨c, q, []⟩ hw))
    have hrun := run_set_place hpath w s
    rw [hp] at hrun
    simp only [htext] at hrun
    refine ⟨_, hrun, ?_⟩
    rintro rfl
    have hsame : Site.write ⟨c, q, []⟩ w s.objects = s.objects := by
      simp only [Site.write, Site.value, front, chain, Objects.append_nil, Cell.write_eq_self hx,
        Objects.put_cell_self]
    exact ⟨hsame, rfl⟩

/-- Reading after writing, writing after writing, and writing what is read. Only the first
two need that no container contains itself. An array of more than `10 ^ 4300` items has a
length without a numeral, so the item appended to it has no pointer. -/
theorem read_write_laws (hroot : s.objects.Writable s.root) (hv : s.objects.Writable v)
    (hw : s.objects.Writable w) :
    (s.objects.Has s.root → s.objects.Acyclic s.root →
      (∀ t, (set (.text path) v).run s = (.ok (), t) →
        ((∀ base n, ¬ Appends s path base n) → get t.objects t.root (.text path) = .ok v) ∧
        ∀ base n, Appends s path base n → Numeral.writable n = true →
          get t.objects t.root (.text (base ++ "/" ++ toString n)) = .ok v) ∧
      ∀ t, t = ((set (.text path) v).run s).2 → (∀ base n, ¬ Appends s path base n) →
        ((set (.text path) w).run t).1 = ((set (.text path) w).run s).1 ∧
        ((set (.text path) w).run s).2.SameDocument ((set (.text path) w).run t).2) ∧
    ∀ x, get s.objects s.root (.text path) = .ok x →
      (∃ t, (set (.text path) x).run s = (.ok (), t) ∧ s.SameDocument t) ∧
      ∃ t, (set (.text path) w).run s = (.ok (), t) := by
  refine ⟨fun hhas hacyclic => ⟨fun t hset => ⟨?_, ?_⟩, ?_⟩, fun x hget => ⟨?_, ?_⟩⟩
  · exact get_after_set hset hhas hacyclic
  · exact fun base n happends hn => get_after_set_dash hset hhas hacyclic happends hn
  · rintro t rfl hno
    cases hset : (set (.text path) v).run s with
    | mk result t =>
      cases result with
      | ok _ => exact set_after_set hset hhas hacyclic hno w
      | error f =>
        -- The first write failed, so it left the store as it was.
        obtain rfl := set_eq_of_error hset hv
        exact ⟨rfl, rfl, rfl⟩
  · obtain ⟨ts, hpath, hwalk⟩ := exists_of_get_ok hget
    obtain ⟨t, hset, hsame⟩ := set_of_get hget (every_of_walk hroot hwalk)
    exact ⟨t, hset, hsame rfl⟩
  · obtain ⟨t, hset, -⟩ := set_of_get hget hw
    exact ⟨t, hset⟩

/-- An array that stands in two places: an item that is the array itself, an object that
is made on the way, and an item that is written as it was. -/
theorem read_write_laws_shared :
    let s : Store :=
      ⟨⟨#[.array [.text "x"], .object [("a", .ref 0), ("b", .ref 0)]], 1⟩, .ref 1, #[]⟩
    let t := ((set (.text "/b/-") (.ref 0)).run s).2
    let u := ((set (.text "/c/d") (.ref 1)).run s).2
    get t.objects t.root (.text "/b/1") = .ok (.ref 0) ∧
      get u.objects u.root (.text "/c/d") = .ok (.ref 1) ∧
      ((set (.text "/c/d") .null).run s).2.SameDocument ((set (.text "/c/d") .null).run u).2 ∧
      ∃ r, (set (.text "/a/0") (.text "x")).run s = (.ok (), r) ∧ s.SameDocument r := by
  intro s t u
  have hhas : s.objects.Has s.root := by decide +kernel
  have hacyclic : s.objects.Acyclic s.root := by decide +kernel
  have hroot : s.objects.Writable s.root := by decide +kernel
  have hitem : s.objects.Writable (.ref 0) := by decide +kernel
  have hnull : s.objects.Writable .null := by decide +kernel
  have ht : (set (.text "/b/-") (.ref 0)).run s = (.ok (), t) :=
    run_eq_of_result (ok_of_toOption (by decide +kernel))
  have hu : (set (.text "/c/d") (.ref 1)).run s = (.ok (), u) :=
    run_eq_of_result (ok_of_toOption (by decide +kernel))
  have happends : Appends s "/b/-" "/b" 1 := ⟨by decide, 0, [.text "x"], by cbv, rfl, rfl⟩
  have hno : ∀ base n, ¬ Appends s "/c/d" base n := by
    intro base n happends
    have hlast := congrArg (fun p => p.points.getLast?) happends.path_eq
    simp at hlast
  have hget : get s.objects s.root (.text "/a/0") = .ok (.text "x") :=
    ok_of_toOption (by decide +kernel)
  have hdash := ((read_write_laws hroot hitem hnull).1 hhas hacyclic).1 t ht
  have hmade := (@read_write_laws s "/c/d" _ _ hroot hroot hnull).1 hhas hacyclic
  exact ⟨hdash.2 "/b" 1 happends (by decide +kernel), (hmade.1 u hu).1 hno, (hmade.2 u rfl hno).2,
    ((read_write_laws hroot hroot hnull).2 _ hget).1⟩

end NodeWalk.Document
