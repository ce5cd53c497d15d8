import NodeWalk.Proofs.Mirrors
import NodeWalk.Proofs.WriteSite

set_option autoImplicit false

/-!
# The way to a site

A write changes the container at its site and none on the way there, as long as no
container leads to itself. So the way can be walked again after the write, and from the
site on through the objects that the write made.
-/
namespace NodeWalk

namespace Cell

variable {c : Cell} {s : Slot} {path token : Text} {append : Bool}

theorem slot_of_slot (h : c.slot path token append = .ok s) (path' : Text) :
    c.slot path' token append = .ok s := by
  cases c with
  | object entries => exact h
  | array items =>
    obtain ⟨i, rfl, hi⟩ := slot_array_ok_iff.1 h
    exact slot_array_ok_iff.2 ⟨i, rfl, Document.index_ok_iff.2 (Document.index_ok_iff.1 hi)⟩

theorem slot_append_of_slot (h : c.slot path token false = .ok s) :
    c.slot path token true = .ok s := by
  cases c with
  | object entries => exact h
  | array items =>
    obtain ⟨i, rfl, hi⟩ := slot_array_ok_iff.1 h
    obtain ⟨hfalse, -⟩ | ⟨hnames, hlt⟩ := Document.index_ok_iff.1 hi
    · cases hfalse
    · exact slot_array_ok_iff.2
        ⟨i, rfl, Document.index_ok_iff.2 (.inr ⟨hnames, Nat.lt_succ_of_lt hlt⟩)⟩

end Cell

namespace Objects

variable {h g : Objects} {v x : Value} {a c : Addr}

theorem mem_reach_ref (h : Objects) (a : Addr) : a ∈ h.reach (.ref a) :=
  mem_reach_of_mem_refs (List.mem_singleton.2 rfl)

theorem reach_mono (hx : ∀ b ∈ x.refs, b ∈ h.reach v) : ∀ b ∈ h.reach x, b ∈ h.reach v :=
  reach_subset (closed_reach h v) hx

theorem reach_inside (ha : a ∈ h.reach v) (hx : x ∈ (h.cell a).values) :
    ∀ b ∈ h.reach x, b ∈ h.reach v :=
  reach_mono fun b hb => closed_reach h v a ha b (List.mem_flatMap.2 ⟨x, hx, hb⟩)

theorem Has.inside (hv : h.Has v) (ha : a ∈ h.reach v) (hx : x ∈ (h.cell a).values) : h.Has x :=
  fun b hb => hv b (reach_inside ha hx b hb)

def Acyclic (h : Objects) (v : Value) : Prop :=
  ∀ a ∈ h.reach v, ∀ x ∈ (h.cell a).values, a ∉ h.reach x

instance (h : Objects) (v : Value) : Decidable (h.Has v) :=
  inferInstanceAs (Decidable (∀ a ∈ h.reach v, a < h.cells.size))

instance (h : Objects) (v : Value) : Decidable (h.Acyclic v) :=
  inferInstanceAs (Decidable (∀ a ∈ h.reach v, ∀ x ∈ (h.cell a).values, a ∉ h.reach x))

theorem Acyclic.inside (hv : h.Acyclic v) (ha : a ∈ h.reach v) (hx : x ∈ (h.cell a).values) :
    h.Acyclic x :=
  fun b hb => hv b (reach_inside ha hx b hb)

def Beside (h g : Objects) (c : Addr) : Prop := ∀ a < h.cells.size, c ≠ a → g.cell a = h.cell a

end Objects

namespace Document

variable {h g : Objects} {path last token : Text} {way rest tokens : List Text}
  {v w x : Value} {a c : Addr}

theorem Site.beside_write (p : Site) (w : Value) (h : Objects) :
    h.Beside (p.write w h) p.cell := fun _ ha hne => cell_write_of_ne hne ha

theorem walk_cons_ok (hw : walk h path (token :: tokens) v = .ok x) :
    ∃ a s y, v = .ref a ∧ (h.cell a).slot path token false = .ok s ∧
      (h.cell a).at? s = some y ∧ walk h path tokens y = .ok x := by
  cases v with
  | scalar b => cases hw
  | ref a =>
    rw [walk_ref] at hw
    cases hs : (h.cell a).slot path token false with
    | error f => rw [hs] at hw; cases hw
    | ok s =>
      rw [hs] at hw
      dsimp only at hw
      cases hy : (h.cell a).at? s with
      | none => rw [hy] at hw; cases hw
      | some y =>
        rw [hy] at hw
        exact ⟨a, s, y, rfl, hs, hy, hw⟩

theorem walk_step {s : Slot} (hs : (h.cell a).slot path token false = .ok s)
    (hx : (h.cell a).at? s = some x) (tokens : List Text) :
    walk h path (token :: tokens) (.ref a) = walk h path tokens x := by
  simp only [walk_ref, hs, hx]

theorem walk_append (hw : walk h path way v = .ok x) (rest : List Text) :
    walk h path (way ++ rest) v = walk h path rest x := by
  induction way generalizing v with
  | nil =>
    cases hw
    rfl
  | cons token way ih =>
    obtain ⟨a, s, y, rfl, hs, hy, hw⟩ := walk_cons_ok hw
    rw [List.cons_append, walk_step hs hy, ih hw]

theorem exists_of_walk_append (hw : walk h path (way ++ rest) v = .ok x) :
    ∃ y, walk h path way v = .ok y ∧ walk h path rest y = .ok x := by
  induction way generalizing v with
  | nil => exact ⟨v, rfl, hw⟩
  | cons token way ih =>
    obtain ⟨a, s, y, rfl, hs, hy, hw⟩ := walk_cons_ok hw
    obtain ⟨z, hz, hx⟩ := ih hw
    exact ⟨z, (walk_step hs hy way).trans hz, hx⟩

theorem walk_of_walk (hw : walk h path way v = .ok x) (path' : Text) :
    walk h path' way v = .ok x := by
  induction way generalizing v with
  | nil => exact hw
  | cons token way ih =>
    obtain ⟨a, s, y, rfl, hs, hy, hw⟩ := walk_cons_ok hw
    rw [walk_step (Cell.slot_of_slot hs path') hy, ih hw]

theorem refs_of_walk (hw : walk h path way v = .ok x) : ∀ b ∈ x.refs, b ∈ h.reach v := by
  induction way generalizing v with
  | nil =>
    cases hw
    exact fun b hb => Objects.mem_reach_of_mem_refs hb
  | cons token way ih =>
    obtain ⟨a, s, y, rfl, hs, hy, hw⟩ := walk_cons_ok hw
    exact fun b hb => Objects.reach_inside (Objects.mem_reach_ref h a)
      (Cell.mem_values_of_at? hy) b (ih hw b hb)

theorem walk_beside (hg : h.Beside g c) (hv : h.Has v) (hacyclic : h.Acyclic v)
    (hw : walk h path way v = .ok (.ref c)) : walk g path way v = .ok (.ref c) := by
  induction way generalizing v with
  | nil => exact hw
  | cons token way ih =>
    obtain ⟨a, s, y, rfl, hs, hy, hrest⟩ := walk_cons_ok hw
    have ha := Objects.mem_reach_ref h a
    have hmem := Cell.mem_values_of_at? hy
    have hne : c ≠ a := by
      rintro rfl
      exact hacyclic c ha y hmem (refs_of_walk hrest c (List.mem_singleton.2 rfl))
    have hcell := hg a (hv a ha) hne
    rw [← hcell] at hs hy
    rw [walk_step hs hy]
    exact ih (hv.inside ha hmem) (hacyclic.inside ha hmem) hrest

theorem site_step {s : Slot} (hs : (h.cell a).slot path token false = .ok s)
    (hx : (h.cell a).at? s = some x) (tokens : List Text) :
    site h path last (token :: tokens) (.ref a) = site h path last tokens x := by
  simp only [site, hs, hx]

theorem site_append (hw : walk h path way v = .ok x) (rest : List Text) :
    site h path last (way ++ rest) v = site h path last rest x := by
  induction way generalizing v with
  | nil =>
    cases hw
    rfl
  | cons token way ih =>
    obtain ⟨a, s, y, rfl, hs, hy, hw⟩ := walk_cons_ok hw
    rw [List.cons_append, site_step hs hy, ih hw]

theorem site_of_walk (hw : walk h path way v = .ok x) (last : Text) :
    site h path last way v = site h path last [] x := by
  have hsite : site h path last (way ++ []) v = site h path last [] x := site_append hw []
  rwa [List.append_nil] at hsite

theorem site_nil_ok {p : Site} (hp : site h path last [] v = .ok p) :
    ∃ a s, v = .ref a ∧ (h.cell a).slot path last true = .ok s ∧ p = ⟨a, s, []⟩ := by
  cases v with
  | scalar b => cases hp
  | ref a =>
    rw [site] at hp
    cases hs : (h.cell a).slot path last true with
    | error f => rw [hs] at hp; cases hp
    | ok s =>
      rw [hs] at hp
      cases hp
      exact ⟨a, s, rfl, hs, rfl⟩

theorem site_cons_ok {p : Site} (hp : site h path last (token :: tokens) v = .ok p) :
    ∃ a, v = .ref a ∧
      ((∃ entries, h.cell a = .object entries ∧ Entries.get? token entries = none ∧
        p = ⟨a, .key token, tokens ++ [last]⟩) ∨
      ∃ s x, (h.cell a).slot path token false = .ok s ∧ (h.cell a).at? s = some x ∧
        site h path last tokens x = .ok p) := by
  cases v with
  | scalar b => cases hp
  | ref a =>
    refine ⟨a, rfl, ?_⟩
    rw [site] at hp
    cases hs : (h.cell a).slot path token false with
    | error f => rw [hs] at hp; cases hp
    | ok s =>
      rw [hs] at hp
      dsimp only at hp
      cases hx : (h.cell a).at? s with
      | none =>
        rw [hx] at hp
        cases hp
        obtain ⟨entries, hc⟩ := exists_object_of_at?_none hs hx
        rw [hc] at hs hx
        cases hs
        exact .inl ⟨entries, hc, hx, rfl⟩
      | some x =>
        rw [hx] at hp
        exact .inr ⟨s, x, rfl, hx, hp⟩

/-- Where the site is: all tokens lead to its container, or some do and the next is
missing in it. -/
inductive Leads (h : Objects) (path last : Text) (v : Value) : List Text → Site → Prop where
  | all {way : List Text} {c : Addr} {s : Slot} (walked : walk h path way v = .ok (.ref c))
      (slot : (h.cell c).slot path last true = .ok s) : Leads h path last v way ⟨c, s, []⟩
  | some {way more : List Text} {c : Addr} {token : Text} {entries : Entries Value}
      (walked : walk h path way v = .ok (.ref c)) (cell : h.cell c = .object entries)
      (missing : Entries.get? token entries = none) :
      Leads h path last v (way ++ token :: more) ⟨c, .key token, more ++ [last]⟩

theorem leads_of_site {p : Site} (hp : site h path last tokens v = .ok p) :
    Leads h path last v tokens p := by
  induction tokens generalizing v with
  | nil =>
    obtain ⟨a, s, rfl, hs, rfl⟩ := site_nil_ok hp
    exact .all rfl hs
  | cons token tokens ih =>
    obtain ⟨a, rfl, ⟨entries, hc, hmissing, rfl⟩ | ⟨s, x, hs, hx, hp⟩⟩ := site_cons_ok hp
    · have hsome : Leads h path last (.ref a) ([] ++ token :: tokens)
          ⟨a, .key token, tokens ++ [last]⟩ := .some rfl hc hmissing
      exact hsome
    · cases ih hp with
      | all walked slot => exact .all ((walk_step hs hx _).trans walked) slot
      | some walked cell missing =>
        exact .some ((walk_step hs hx _).trans walked) cell missing

theorem Leads.mem_reach {p : Site} (hp : Leads h path last v tokens p) : p.cell ∈ h.reach v := by
  cases hp with
  | all walked _ => exact refs_of_walk walked _ (List.mem_singleton.2 rfl)
  | some walked _ _ => exact refs_of_walk walked _ (List.mem_singleton.2 rfl)

/-- The cells from `base` on are those of the chain. -/
def Linked (g : Objects) (w : Value) (base : Nat) (tokens : List Text) : Prop :=
  ∀ i (hi : i < (chain w base tokens).length), g.cell (base + i) = (chain w base tokens)[i]

theorem Linked.head {base : Nat} (hl : Linked g w base (token :: tokens)) :
    g.cell base = .object [(token, front w (base + 1) tokens)] :=
  hl 0 (Nat.zero_lt_succ _)

theorem Linked.tail {base : Nat} (hl : Linked g w base (token :: tokens)) :
    Linked g w (base + 1) tokens := by
  intro i hi
  have hnext : base + 1 + i = base + (i + 1) := by omega
  exact (congrArg g.cell hnext).trans (hl (i + 1) (Nat.succ_lt_succ hi))

theorem walk_chain {base : Nat} (hl : Linked g w base tokens) (path : Text) :
    walk g path tokens (front w base tokens) = .ok w := by
  induction tokens generalizing base with
  | nil => rfl
  | cons token tokens ih =>
    have hs : (g.cell base).slot path token false = .ok (.key token) := by
      rw [hl.head]
      rfl
    have hx : (g.cell base).at? (.key token) = some (front w (base + 1) tokens) := by
      simp [hl.head, Cell.at?, Entries.get?]
    rw [front, walk_step hs hx, ih hl.tail]

theorem length_chain (w : Value) (base : Nat) (tokens : List Text) :
    (chain w base tokens).length = tokens.length := by
  induction tokens generalizing base with
  | nil => rfl
  | cons token tokens ih => exact congrArg Nat.succ (ih (base + 1))

theorem front_ref (base : Nat) (tokens : List Text) :
    front (.ref (base + tokens.length)) base tokens = .ref base := by
  cases tokens <;> rfl

theorem chain_concat (w : Value) (base : Nat) (tokens : List Text) (last : Text) :
    chain w base (tokens ++ [last]) =
      chain (.ref (base + tokens.length)) base tokens ++ [.object [(last, w)]] := by
  induction tokens generalizing base with
  | nil => rfl
  | cons token tokens ih =>
    have hfront : front w (base + 1) (tokens ++ [last]) =
        front (.ref (base + 1 + tokens.length)) (base + 1) tokens := by
      rw [front_ref]
      cases tokens <;> rfl
    have hlength : base + 1 + tokens.length = base + (token :: tokens).length := by
      rw [List.length_cons]
      omega
    rw [List.cons_append, chain, ih, hfront, hlength]
    rfl

theorem Site.linked (p : Site) (w : Value) (h : Objects) :
    Linked (p.write w h) w h.cells.size p.missing := fun _ hi => cell_write_add hi

end Document
end NodeWalk
