import NodeWalk.Proofs.DocumentLaws
import NodeWalk.Proofs.DocumentTree

set_option autoImplicit false

/-!
# Writes and other places

In a document that is a tree a write is seen only at its own place: at every pointer
that neither leads to the place nor goes through it, the same is read as before, be it a
value or a fault. The tokens of arrays have to be of the seven-bit character set, or two
of them could name one item.
-/
namespace NodeWalk

/-- The token under which a written item is read: an appended one under the old length. -/
def Cell.spelled (last : Text) : Cell → Text
  | .array items => if last = "-" then toString items.length else last
  | .object _ => last

namespace Document

variable {s t : Store} {h : Objects} {path path' last token : Text} {tokens qs : List Text}
  {u w x : Value} {a : Addr}

def Ascii (token : Text) : Prop := ∀ c ∈ token.points, c.toNat < 128

/-- The tokens that meet an array on their way are of the seven-bit character set. -/
def AsciiOnArrays (h : Objects) (path : Text) (tokens : List Text) (v : Value) : Prop :=
  ∀ way token rest, tokens = way ++ token :: rest → ∀ a items,
    walk h path way v = .ok (.ref a) → h.cell a = .array items → Ascii token

instance (token : Text) : Decidable (Ascii token) :=
  List.decidableBAll (fun c : CodePoint => c.toNat < 128) token.points

theorem asciiOnArrays_of_forall (htokens : ∀ token ∈ tokens, Ascii token) (v : Value) :
    AsciiOnArrays h path tokens v := by
  rintro way token rest rfl a items - -
  exact htokens token (List.mem_append_right way List.mem_cons_self)

theorem AsciiOnArrays.head {items : List Value} (hv : AsciiOnArrays h path (token :: tokens)
    (.ref a)) (hc : h.cell a = .array items) : Ascii token :=
  hv [] token tokens rfl a items rfl hc

theorem AsciiOnArrays.tail {p : Slot} (hv : AsciiOnArrays h path (token :: tokens) (.ref a))
    (hp : (h.cell a).slot path token false = .ok p) (hx : (h.cell a).at? p = some x) :
    AsciiOnArrays h path tokens x := by
  rintro way next rest rfl b items hw hc
  exact hv (token :: way) next rest rfl b items ((walk_step hp hx way).trans hw) hc

/-- The last token of a write, a dash for an item that is appended read as its index. -/
def spelled (h : Objects) (path last : Text) (tokens : List Text) (v : Value) : Text :=
  match walk h path tokens v with
  | .ok (.ref a) => (h.cell a).spelled last
  | _ => last

/-- The tokens of a write, the last one read as an index if it is a dash. -/
def placed (h : Objects) (path : Text) (tokens : List Text) (v : Value) : List Text :=
  match tokens.getLast? with
  | none => []
  | some last => tokens.dropLast ++ [spelled h path last tokens.dropLast v]

theorem placed_concat (h : Objects) (path : Text) (tokens : List Text) (last : Text)
    (v : Value) :
    placed h path (tokens ++ [last]) v = tokens ++ [spelled h path last tokens v] := by
  simp [placed]

theorem spelled_step {p : Slot} (hp : (h.cell a).slot path token false = .ok p)
    (hx : (h.cell a).at? p = some x) (last : Text) (tokens : List Text) :
    spelled h path last (token :: tokens) (.ref a) = spelled h path last tokens x := by
  rw [spelled, walk_step hp hx, spelled]

theorem spelled_missing {entries : Entries Value} (hc : h.cell a = .object entries)
    (hmissing : Entries.get? token entries = none) (path last : Text) (tokens : List Text) :
    spelled h path last (token :: tokens) (.ref a) = last := by
  have hslot : (h.cell a).slot path token false = .ok (.key token) := by
    rw [hc]
    rfl
  have hat : (h.cell a).at? (.key token) = none := by
    rw [hc]
    exact hmissing
  simp only [spelled, walk_ref, hslot, hat]

end Document

namespace Cell

open Document

variable {c : Cell} {s : Slot} {path path' last token q : Text} {w : Value}

theorem kind_write (w : Value) (c : Cell) (s : Slot) : (c.write w s).kind = c.kind := by
  cases c <;> cases s <;> rfl

/-- Two tokens of the seven-bit character set that select one slot for reading are one. -/
theorem eq_of_slot_eq (hs : c.slot path token false = .ok s) (hq : c.slot path' q false = .ok s)
    (htoken : ∀ items, c = .array items → Ascii token)
    (hqAscii : ∀ items, c = .array items → Ascii q) : q = token := by
  cases c with
  | object entries =>
    cases hs
    exact Slot.key.inj (Except.ok.inj hq)
  | array items =>
    obtain ⟨i, rfl, hi⟩ := slot_array_ok_iff.1 hs
    obtain ⟨j, hj, hj'⟩ := slot_array_ok_iff.1 hq
    cases hj
    obtain ⟨hfalse, -⟩ | ⟨hn, -⟩ := index_ok_iff.1 hi
    · cases hfalse
    · obtain ⟨hfalse, -⟩ | ⟨hm, -⟩ := index_ok_iff.1 hj'
      · cases hfalse
      · rw [eq_toString_of_names hn (htoken items rfl),
          eq_toString_of_names hm (hqAscii items rfl)]

/-- The token of another slot selects it as before the write, or is refused as before. -/
theorem slot_write_of_ne (hs : c.slot path last true = .ok s) (hne : q ≠ c.spelled last)
    (hlast : ∀ items, c = .array items → Ascii last)
    (hqAscii : ∀ items, c = .array items → Ascii q) (w : Value) (path' : Text) :
    (c.write w s).slot path' q false = c.slot path' q false ∧ c.slot path' q false ≠ .ok s := by
  cases c with
  | object entries =>
    cases hs
    exact ⟨rfl, fun he => hne (Slot.key.inj (Except.ok.inj he))⟩
  | array items =>
    obtain ⟨i, rfl, hi⟩ := slot_array_ok_iff.1 hs
    have hnames : ¬ Names q i := by
      intro hn
      obtain rfl := eq_toString_of_names hn (hqAscii items rfl)
      rw [spelled] at hne
      obtain ⟨-, rfl, rfl⟩ | ⟨hm, -⟩ := index_ok_iff.1 hi
      · exact hne (if_pos rfl).symm
      · obtain rfl := eq_toString_of_names hm (hlast items rfl)
        have hdash : Text.ofString (toString i) ≠ "-" := by
          intro he
          rw [he] at hm
          exact not_names_dash i hm
        exact hne (if_neg hdash).symm
    constructor
    · by_cases hlength : i = items.length
      · subst hlength
        have hsucc := index_succ hnames path'
        simp [write, slot, hsucc]
      · simp [write, slot, hlength]
    · intro he
      obtain ⟨j, hj, hindex⟩ := slot_array_ok_iff.1 he
      cases hj
      obtain ⟨hfalse, -⟩ | ⟨hn, -⟩ := index_ok_iff.1 hindex
      · cases hfalse
      · exact hnames hn

end Cell

namespace Document

variable {s t : Store} {h g : Objects} {path path' last token q : Text}
  {tokens qs : List Text} {u v w x y : Value} {a : Addr}

/-- Read the same as before, and if a value is read it does not lead to the written cell. -/
structure ReadBeside (h g : Objects) (c : Addr) (path : Text) (qs : List Text) (u : Value) :
    Prop where
  walk_eq : walk g path qs u = walk h path qs u
  not_mem : ∀ x, walk h path qs u = .ok x → c ∉ h.reach x

theorem readBeside_of_not_mem {c : Addr} (hg : h.Beside g c) (hy : h.Has y)
    (hc : c ∉ h.reach y) (path : Text) (qs : List Text) : ReadBeside h g c path qs y where
  walk_eq := walk_beside_of_not_mem hg hy hc qs
  not_mem _ hx hcx := hc (Objects.reach_mono (refs_of_walk hx) _ hcx)

theorem ReadBeside.step {c : Addr}
    (hslot : (g.cell a).slot path q false = (h.cell a).slot path q false)
    (hat : ∀ p, (h.cell a).slot path q false = .ok p → (g.cell a).at? p = (h.cell a).at? p)
    (hinside : ∀ p y, (h.cell a).slot path q false = .ok p → (h.cell a).at? p = some y →
      ReadBeside h g c path qs y) : ReadBeside h g c path (q :: qs) (.ref a) := by
  constructor
  · rw [walk_ref, walk_ref, hslot]
    cases hp : (h.cell a).slot path q false with
    | error f => rfl
    | ok p =>
      dsimp only
      rw [hat p hp]
      cases hy : (h.cell a).at? p with
      | none => rfl
      | some y => exact (hinside p y hp hy).walk_eq
  · intro x hx
    obtain ⟨b, p, y, hb, hp, hy, hx⟩ := walk_cons_ok hx
    cases hb
    exact (hinside p y hp hy).not_mem x hx

theorem walk_chain_of_not_prefix {base : Nat} (hl : Linked g w base tokens)
    (hpq : ¬ tokens <+: qs) (hqp : ¬ qs <+: tokens) :
    walk g path qs (front w base tokens) = .error (.path path .missing) := by
  induction tokens generalizing base qs with
  | nil => exact absurd List.nil_prefix hpq
  | cons token tokens ih =>
    cases qs with
    | nil => exact absurd List.nil_prefix hqp
    | cons q qs =>
      have hslot : (g.cell base).slot path q false = .ok (.key q) := by
        rw [hl.head]
        rfl
      by_cases hq : token = q
      · subst hq
        rw [List.cons_prefix_cons, and_iff_right rfl] at hpq hqp
        have hat : (g.cell base).at? (.key token) = some (front w (base + 1) tokens) := by
          simp [hl.head, Cell.at?, Entries.get?]
        rw [front, walk_step hslot hat]
        exact ih hl.tail hpq hqp
      · have hat : (g.cell base).at? (.key q) = none := by
          simp [hl.head, Cell.at?, Entries.get?, hq]
        simp only [front, walk_ref, hslot, hat]

section Parting

variable (hhas : h.Has (.ref a)) (htree : h.Tree (.ref a))
include hhas htree

theorem readBeside_here {p : Slot} (hp : (h.cell a).slot path last true = .ok p)
    (hap : AsciiOnArrays h path [last] (.ref a)) (haq : AsciiOnArrays h path' (q :: qs) (.ref a))
    (hne : q ≠ (h.cell a).spelled last) (w : Value) :
    ReadBeside h (Site.write ⟨a, p, []⟩ w h) a path' (q :: qs) (.ref a) := by
  have ha := Objects.mem_reach_ref h a
  have hcell : (Site.write ⟨a, p, []⟩ w h).cell a = (h.cell a).write w p :=
    Site.cell_write_self (hhas a ha)
  obtain ⟨hslot, hother⟩ := Cell.slot_write_of_ne hp hne (fun _ hc => hap.head hc)
    (fun _ hc => haq.head hc) w path'
  refine .step ?_ ?_ ?_
  · rw [hcell, hslot]
  · intro p' hp'
    have hp'ne : p' ≠ p := fun he => hother (he ▸ hp')
    rw [hcell, Cell.at?_write_of_ne hp'ne]
  · intro p' y hp' hy
    have hmem := Cell.mem_values_of_at? hy
    exact readBeside_of_not_mem (Site.beside_write ⟨a, p, []⟩ w h) (hhas.inside ha hmem)
      (htree.acyclic a ha y hmem) path' qs

theorem readBeside_made {entries : Entries Value} (hc : h.cell a = .object entries)
    (hmissing : Entries.get? token entries = none)
    (hpq : ¬ token :: tokens ++ [last] <+: q :: qs)
    (hqp : ¬ q :: qs <+: token :: tokens ++ [last]) (w : Value) :
    ReadBeside h (Site.write ⟨a, .key token, tokens ++ [last]⟩ w h) a path' (q :: qs) (.ref a) := by
  have ha := Objects.mem_reach_ref h a
  have hcell := Site.cell_write_self (p := ⟨a, .key token, tokens ++ [last]⟩) (w := w) (hhas a ha)
  have hlinked := Site.linked ⟨a, .key token, tokens ++ [last]⟩ w h
  have hold : (h.cell a).slot path' q false = .ok (.key q) := by
    rw [hc]
    rfl
  have hnew : ((Site.write ⟨a, .key token, tokens ++ [last]⟩ w h).cell a).slot path' q false =
      .ok (.key q) := by
    rw [hcell, hc]
    rfl
  by_cases hq : token = q
  · subst hq
    rw [List.cons_append, List.cons_prefix_cons, and_iff_right rfl] at hpq hqp
    have hnone : walk h path' (token :: qs) (.ref a) = .error (.path path' .missing) := by
      have hat : (h.cell a).at? (.key token) = none := by
        rw [hc]
        exact hmissing
      simp only [walk_ref, hold, hat]
    constructor
    · have hat : ((Site.write ⟨a, .key token, tokens ++ [last]⟩ w h).cell a).at? (.key token) =
          some (front w h.cells.size (tokens ++ [last])) := by
        rw [hcell, hc]
        exact Entries.get?_set_self token _ entries
      rw [walk_step hnew hat, hnone]
      exact walk_chain_of_not_prefix hlinked hpq hqp
    · intro x hx
      rw [hnone] at hx
      cases hx
  · refine .step (hnew.trans hold.symm) ?_ ?_
    · intro p' hp'
      cases hold.symm.trans hp'
      have hne : Slot.key q ≠ .key token := fun he => hq (Slot.key.inj he).symm
      rw [hcell, Cell.at?_write_of_ne hne]
    · intro p' y hp' hy
      have hmem := Cell.mem_values_of_at? hy
      exact readBeside_of_not_mem (Site.beside_write _ w h) (hhas.inside ha hmem)
        (htree.acyclic a ha y hmem) path' qs

/-- At a container on the way: what stands in another slot does not lead to the site. -/
theorem readBeside_parted {p : Slot} {c : Addr} (hg : h.Beside g c)
    (hp : (h.cell a).slot path token false = .ok p) (hx : (h.cell a).at? p = some x)
    (hc : c ∈ h.reach x) (hap : AsciiOnArrays h path (token :: tokens) (.ref a))
    (haq : AsciiOnArrays h path' (q :: qs) (.ref a)) (hne : q ≠ token) :
    ReadBeside h g c path' (q :: qs) (.ref a) := by
  have ha := Objects.mem_reach_ref h a
  have hca : c ≠ a := by
    rintro rfl
    exact htree.acyclic c ha x (Cell.mem_values_of_at? hx) hc
  have hcell := hg a (hhas a ha) hca
  refine .step (by rw [hcell]) (fun _ _ => by rw [hcell]) ?_
  intro p' y hp' hy
  have hp'ne : p' ≠ p := by
    rintro rfl
    exact hne (Cell.eq_of_slot_eq hp hp' (fun _ hc => hap.head hc) fun _ hc => haq.head hc)
  exact readBeside_of_not_mem hg (hhas.inside ha (Cell.mem_values_of_at? hy))
    (htree.disjoint (Cell.entry_of_at? hx) (Cell.entry_of_at? hy) hp'ne hc) path' qs

end Parting

/-- The induction is on the tokens that lead to the site: as long as both pointers agree the
containers on the way are not written, and where they part the slots differ. -/
theorem readBeside_write {p : Site} (hp : site h path last tokens u = .ok p) (hhas : h.Has u)
    (htree : h.Tree u) (hap : AsciiOnArrays h path (tokens ++ [last]) u)
    (haq : AsciiOnArrays h path' qs u)
    (hpq : ¬ tokens ++ [spelled h path last tokens u] <+: qs)
    (hqp : ¬ qs <+: tokens ++ [spelled h path last tokens u]) (w : Value) :
    ReadBeside h (p.write w h) p.cell path' qs u := by
  induction tokens generalizing u qs with
  | nil =>
    obtain ⟨a, slot, rfl, hslot, rfl⟩ := site_nil_ok hp
    cases qs with
    | nil => exact absurd List.nil_prefix hqp
    | cons q qs =>
      refine readBeside_here hhas htree hslot hap haq ?_ w
      rintro rfl
      exact hpq (List.cons_prefix_cons.2 ⟨rfl, List.nil_prefix⟩)
  | cons token tokens ih =>
    cases qs with
    | nil => exact absurd List.nil_prefix hqp
    | cons q qs =>
      obtain ⟨a, rfl, ⟨entries, hc, hmissing, rfl⟩ | ⟨slot, x, hslot, hx, hrest⟩⟩ := site_cons_ok hp
      · rw [spelled_missing hc hmissing] at hpq hqp
        exact readBeside_made hhas htree hc hmissing hpq hqp w
      · have ha := Objects.mem_reach_ref h a
        have hmem := Cell.mem_values_of_at? hx
        have hsite := (leads_of_site hrest).mem_reach
        by_cases hq : q = token
        · subst hq
          have hne : p.cell ≠ a := by
            intro he
            exact htree.acyclic a ha x hmem (he ▸ hsite)
          have hcell := p.beside_write w h a (hhas a ha) hne
          rw [spelled_step hslot hx, List.cons_append, List.cons_prefix_cons,
            and_iff_right rfl] at hpq hqp
          refine .step (by rw [hcell]) (fun _ _ => by rw [hcell]) ?_
          intro slot' y hslot' hy
          cases (Cell.slot_of_slot hslot path').symm.trans hslot'
          cases hx.symm.trans hy
          exact ih hrest (hhas.inside ha hmem) (htree.inside (Cell.entry_of_at? hx))
            (hap.tail hslot hx) (haq.tail hslot' hy) hpq hqp
        · exact readBeside_parted hhas htree (p.beside_write w h) hslot hx hsite hap haq hq

def AsciiPointer (s : Store) (path : Text) : Prop :=
  ∀ ts, Pointer.tokens path = .ok ts → AsciiOnArrays s.objects path ts s.root

/-- Neither pointer leads through the place of the other. -/
def Apart (s : Store) (p q : Text) : Prop :=
  ∀ ps qs, Pointer.tokens p = .ok ps → Pointer.tokens q = .ok qs →
    ¬ placed s.objects p ps s.root <+: qs ∧ ¬ qs <+: placed s.objects p ps s.root

theorem Site.at?_write (p : Site) (w : Value) (h : Objects) {b : Addr} (hb : b < h.cells.size) :
    ((p.write w h).cell b).kind = (h.cell b).kind ∧
      ∀ s, (b, s) ≠ (p.cell, p.slot) → ((p.write w h).cell b).at? s = (h.cell b).at? s := by
  by_cases hne : p.cell = b
  · subst hne
    rw [cell_write_self hb]
    refine ⟨Cell.kind_write _ _ _, fun s hs => Cell.at?_write_of_ne ?_⟩
    rintro rfl
    exact hs rfl
  · rw [cell_write_of_ne hne hb]
    exact ⟨rfl, fun _ _ => rfl⟩

/-- In a tree a write is not seen at a pointer apart from its own: the same is read there,
and it looks the same. One slot of one container is written and no other. -/
theorem set_elsewhere {p q : Text} (hset : (set (.text p) v).run s = (.ok (), t))
    (hhas : s.objects.Has s.root) (htree : s.objects.Tree s.root) (hp : AsciiPointer s p)
    (hq : AsciiPointer s q) (hapart : Apart s p q) :
    get t.objects t.root (.text q) = get s.objects s.root (.text q) ∧
    (∀ x, get s.objects s.root (.text q) = .ok x → t.objects.unfold x = s.objects.unfold x) ∧
    ∃ a slot, ∀ b, b < s.objects.cells.size →
      (t.objects.cell b).kind = (s.objects.cell b).kind ∧
      ∀ slot', (b, slot') ≠ (a, slot) →
        (t.objects.cell b).at? slot' = (s.objects.cell b).at? slot' := by
  obtain ⟨hpath, hobjects, hroot⟩ | ⟨tokens, last, site, hpath, hsite, hobjects, hroot⟩ :=
    exists_of_set_ok hset
  · rw [hobjects]
    refine ⟨?_, fun _ _ => rfl, 0, .item 0, fun _ _ => ⟨rfl, fun _ _ => rfl⟩⟩
    cases hqs : Pointer.tokens q with
    | error f => rw [get_text, get_text, hqs]; rfl
    | ok qs => exact absurd List.nil_prefix (hapart [] qs hpath hqs).1
  · rw [hobjects, hroot]
    have hbeside := site.beside_write v s.objects
    have hread {qs : List Text} (hqs : Pointer.tokens q = .ok qs) :
        ReadBeside s.objects (site.write v s.objects) site.cell q qs s.root := by
      obtain ⟨hpq, hqp⟩ := hapart _ qs hpath hqs
      rw [placed_concat] at hpq hqp
      exact readBeside_write hsite hhas htree (hp _ hpath) (hq qs hqs) hpq hqp v
    refine ⟨?_, fun x hx => ?_, site.cell, site.slot, fun b hb => site.at?_write v s.objects hb⟩
    · cases hqs : Pointer.tokens q with
      | error f => rw [get_text, get_text, hqs]; rfl
      | ok qs =>
        rw [get_of_tokens hqs, get_of_tokens hqs]
        exact (hread hqs).walk_eq
    · obtain ⟨qs, hqs, hwalk⟩ := exists_of_get_ok hx
      have hhasx : s.objects.Has x := fun b hb =>
        hhas b (Objects.reach_mono (refs_of_walk hwalk) b hb)
      exact hhasx.unfold_beside hbeside ((hread hqs).not_mem x hwalk)

/-- The document itself is appended to one of its arrays, and the item in front is read. -/
theorem set_elsewhere_item :
    let s : Store :=
      ⟨⟨#[.array [.text "x"], .object [("a", .ref 0), ("b", .null)]], 1⟩, .ref 1, #[]⟩
    ∃ t, (set (.text "/a/-") (.ref 1)).run s = (.ok (), t) ∧ Apart s "/a/-" "/a/0" ∧
      get t.objects t.root (.text "/a/0") = get s.objects s.root (.text "/a/0") := by
  intro s
  have hset : (set (.text "/a/-") (.ref 1)).run s = (.ok (), _) :=
    run_eq_of_result (ok_of_toOption (by decide +kernel))
  have hhas : s.objects.Has s.root := by decide +kernel
  have htree : s.objects.Tree s.root := .of_nodup (by decide +kernel)
  have hp : Pointer.tokens "/a/-" = .ok ["a", "-"] := by cbv
  have hq : Pointer.tokens "/a/0" = .ok ["a", "0"] := by cbv
  have hplaced : placed s.objects "/a/-" ["a", "-"] s.root = ["a", "1"] := by cbv
  have hapart : Apart s "/a/-" "/a/0" := by
    intro ps qs hps hqs
    cases hp.symm.trans hps
    cases hq.symm.trans hqs
    rw [hplaced]
    decide
  have hpAscii : AsciiPointer s "/a/-" := by
    intro ts hts
    cases hp.symm.trans hts
    exact asciiOnArrays_of_forall (by decide +kernel) _
  have hqAscii : AsciiPointer s "/a/0" := by
    intro ts hts
    cases hq.symm.trans hts
    exact asciiOnArrays_of_forall (by decide +kernel) _
  exact ⟨_, hset, hapart, (set_elsewhere hset hhas htree hpAscii hqAscii hapart).1⟩

end Document
end NodeWalk
