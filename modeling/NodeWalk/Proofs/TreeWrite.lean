import NodeWalk.Proofs.Slots

set_option autoImplicit false

/-!
# Writing into trees

A write as a function on trees: the slot that the first token selects is written by the tokens
behind it, and where nothing stands in the slot they start from an empty object. Two writes
whose tokens select different slots at some place can be made in either order, and both orders
lead to one tree but for the order of keys.
-/
namespace NodeWalk

namespace Entries

variable {α : Type}

theorem exists_set_eq (k : Text) (es : Entries α) :
    ∃ front back, ∀ v, set k v es = front ++ (k, v) :: back := by
  induction es with
  | nil => exact ⟨[], [], fun _ => rfl⟩
  | cons e es ih =>
    by_cases he : e.1 = k
    · exact ⟨[], es, fun v => by simp [set, he]⟩
    · obtain ⟨front, back, hset⟩ := ih
      exact ⟨e :: front, back, fun v => by simp [set, he, hset]⟩

theorem set_comm {k k' : Text} (h : k ≠ k') (v w : α) (es : Entries α) :
    (set k' w (set k v es)).Perm (set k v (set k' w es)) := by
  induction es with
  | nil =>
    simp only [set, h, Ne.symm h, if_false]
    exact .swap _ _ _
  | cons e es ih =>
    by_cases he : e.1 = k
    · have hk' : e.1 ≠ k' := fun hc => h (he.symm.trans hc)
      simp [set, he, h]
    · by_cases hk' : e.1 = k'
      · simp [set, hk', Ne.symm h]
      · simp only [set, he, hk', if_false]
        exact ih.cons e

end Entries

namespace Unfolding

def slot? (token : Text) (append : Bool) : Unfolding → Option Slot
  | .object _ => some (.key token)
  | .array items => ((Document.index "" items.length token append).map Slot.item).toOption
  | _ => none

def at? : Unfolding → Slot → Option Unfolding
  | .object entries, .key k => Entries.get? k entries
  | .array items, .item i => items[i]?
  | _, _ => none

def inside (u : Unfolding) (s : Slot) : Unfolding := (u.at? s).getD (.object [])

def assign (u : Unfolding) (s : Slot) (x : Unfolding) : Unfolding :=
  match u, s with
  | .object entries, .key k => .object (Entries.set k x entries)
  | .array items, .item i => .array (if i = items.length then items ++ [x] else items.set i x)
  | u, _ => u

/-- The tree with another at the place that the tokens lead to, if they lead to one. Only the
last token may append. -/
def place? (u x : Unfolding) : List Text → Option Unfolding
  | [] => some x
  | token :: tokens => do
    let s ← u.slot? token tokens.isEmpty
    let y ← (u.inside s).place? x tokens
    some (u.assign s y)

variable {t u v x y : Unfolding} {s s' : Slot} {token token' : Text} {append append' : Bool}
  {items : List Unfolding}

theorem slot?_array_eq_some : (array items).slot? token append = some s ↔
    ∃ i, s = .item i ∧ Document.index "" items.length token append = .ok i := by
  rw [slot?]
  cases Document.index "" items.length token append with
  | error f => simp [Except.map, Except.toOption]
  | ok i => simp [Except.map, Except.toOption, eq_comm]

theorem le_of_slot? {i : Nat} (hs : (array items).slot? token append = some (.item i)) :
    i ≤ items.length := by
  obtain ⟨j, hj, hi⟩ := slot?_array_eq_some.1 hs
  cases hj
  obtain ⟨-, -, rfl⟩ | ⟨-, hlt⟩ := Document.index_ok_iff.1 hi
  · exact Nat.le_refl _
  · split at hlt <;> omega

theorem at?_assign_self (hs : u.slot? token append = some s) (x : Unfolding) :
    (u.assign s x).at? s = some x := by
  cases u with
  | scalar a => cases hs
  | back c n => cases hs
  | object entries =>
    cases hs
    exact Entries.get?_set_self token x entries
  | array items =>
    obtain ⟨i, rfl, -⟩ := slot?_array_eq_some.1 hs
    have hle := le_of_slot? hs
    by_cases hlast : i = items.length
    · simp [assign, at?, hlast]
    · have hlt : i < items.length := by omega
      simp [assign, at?, hlast, hlt]

theorem at?_assign_of_ne (hs' : u.slot? token append = some s') (hne : s ≠ s') (x : Unfolding) :
    (u.assign s x).at? s' = u.at? s' := by
  cases u with
  | scalar a => cases hs'
  | back c n => cases hs'
  | object entries =>
    cases hs'
    cases s with
    | item i => rfl
    | key k =>
      have hk : token ≠ k := fun he => hne (congrArg Slot.key he.symm)
      exact Entries.get?_set_of_ne hk x entries
  | array items =>
    obtain ⟨j, rfl, -⟩ := slot?_array_eq_some.1 hs'
    have hle := le_of_slot? hs'
    cases s with
    | key k => rfl
    | item i =>
      have hij : i ≠ j := fun he => hne (congrArg Slot.item he)
      by_cases hlast : i = items.length
      · have hlt : j < items.length := by omega
        simp [assign, at?, hlast, List.getElem?_append_left hlt]
      · simp [assign, at?, hlast, List.getElem?_set_ne hij]

theorem assign_assign (hs : u.slot? token append = some s) (x y : Unfolding) :
    (u.assign s x).assign s y = u.assign s y := by
  cases u with
  | scalar a => cases hs
  | back c n => cases hs
  | object entries =>
    cases hs
    exact congrArg Unfolding.object (Entries.set_set token x y entries)
  | array items =>
    obtain ⟨i, rfl, -⟩ := slot?_array_eq_some.1 hs
    by_cases hlast : i = items.length
    · simp [assign, hlast]
    · simp [assign, hlast]

/-- A token selects its slot again after another slot was assigned, or one that was there. -/
theorem slot?_assign (hs : u.slot? token append = some s)
    (hs' : u.slot? token' append' = some s') (h : s ≠ s' ∨ append = false) (x : Unfolding) :
    (u.assign s x).slot? token' append' = some s' := by
  cases u with
  | scalar a => cases hs
  | back c n => cases hs
  | object entries =>
    cases hs
    exact hs'
  | array items =>
    obtain ⟨i, rfl, hi⟩ := slot?_array_eq_some.1 hs
    obtain ⟨j, rfl, hj⟩ := slot?_array_eq_some.1 hs'
    by_cases hlast : i = items.length
    · subst hlast
      have hne : items.length ≠ j := by
        intro he
        obtain hne | rfl := h
        · exact hne (congrArg Slot.item he)
        · obtain ⟨hfalse, -⟩ | ⟨-, hlt⟩ := Document.index_ok_iff.1 hi
          · cases hfalse
          · exact Nat.lt_irrefl _ hlt
      obtain ⟨-, -, rfl⟩ | ⟨hnames, hlt⟩ := Document.index_ok_iff.1 hj
      · exact absurd rfl hne
      · refine slot?_array_eq_some.2 ⟨j, rfl, Document.index_ok_iff.2 (.inr ⟨hnames, ?_⟩)⟩
        rw [if_pos rfl, List.length_append, List.length_singleton]
        split at hlt <;> split <;> omega
    · rw [assign, if_neg hlast]
      refine slot?_array_eq_some.2 ⟨j, rfl, ?_⟩
      rw [List.length_set]
      exact hj

/-- One tree is the other with the keys of its objects in another order. -/
inductive Reordered : Unfolding → Unfolding → Prop where
  | refl (u : Unfolding) : Reordered u u
  | keys {entries others : Entries Unfolding} (perm : entries.Perm others) :
    Reordered (.object entries) (.object others)
  | item {x y : Unfolding} (front back : List Unfolding) (inside : Reordered x y) :
    Reordered (.array (front ++ x :: back)) (.array (front ++ y :: back))
  | member {x y : Unfolding} (front : Entries Unfolding) (k : Text) (back : Entries Unfolding)
    (inside : Reordered x y) :
    Reordered (.object (front ++ (k, x) :: back)) (.object (front ++ (k, y) :: back))
  | trans {x y z : Unfolding} (first : Reordered x y) (second : Reordered y z) : Reordered x z

theorem Reordered.assign (h : Reordered x y) (u : Unfolding) (s : Slot) :
    Reordered (u.assign s x) (u.assign s y) := by
  cases u with
  | scalar a => exact .refl _
  | back c n => exact .refl _
  | object entries =>
    cases s with
    | item i => exact .refl _
    | key k =>
      obtain ⟨front, back, hset⟩ := Entries.exists_set_eq k entries
      simp only [Unfolding.assign, hset]
      exact .member front k back h
  | array items =>
    cases s with
    | key k => exact .refl _
    | item i =>
      by_cases hlast : i = items.length
      · simp only [Unfolding.assign, if_pos hlast]
        exact .item items [] h
      · simp only [Unfolding.assign, if_neg hlast]
        rcases Nat.lt_or_ge i items.length with hlt | hge
        · rw [List.set_eq_take_append_cons_drop, List.set_eq_take_append_cons_drop, if_pos hlt,
            if_pos hlt]
          exact .item _ _ h
        · rw [List.set_eq_of_length_le hge, List.set_eq_of_length_le hge]
          exact .refl _

theorem assign_comm (hs : u.slot? token append = some s) (hs' : u.slot? token' append' = some s')
    (hne : s ≠ s') (x y : Unfolding) :
    Reordered ((u.assign s x).assign s' y) ((u.assign s' y).assign s x) := by
  cases u with
  | scalar a => cases hs
  | back c n => cases hs
  | object entries =>
    cases hs
    cases hs'
    exact .keys (Entries.set_comm (fun he => hne (congrArg Slot.key he)) x y entries)
  | array items =>
    obtain ⟨i, rfl, -⟩ := slot?_array_eq_some.1 hs
    obtain ⟨j, rfl, -⟩ := slot?_array_eq_some.1 hs'
    have hi := le_of_slot? hs
    have hj := le_of_slot? hs'
    have hij : i ≠ j := fun he => hne (congrArg Slot.item he)
    have hsame : ((array items).assign (.item i) x).assign (.item j) y =
        ((array items).assign (.item j) y).assign (.item i) x := by
      by_cases hlast : i = items.length
      · have hlt : j < items.length := by omega
        have hjne : j ≠ items.length + 1 := by omega
        simp [assign, hlast, Nat.ne_of_lt hlt, hjne, List.set_append_left _ _ hlt]
      · by_cases hlast' : j = items.length
        · have hlt : i < items.length := by omega
          have hine : i ≠ items.length + 1 := by omega
          simp [assign, hlast', Nat.ne_of_lt hlt, hine, List.set_append_left _ _ hlt]
        · simp [assign, hlast, hlast', List.set_comm _ _ hij]
    rw [hsame]
    exact .refl _

/-- The tokens of one write part from those of the other: at some place they select different
slots. -/
inductive Parted : List Text → List Text → Unfolding → Prop where
  | here {p q : Text} {ps qs : List Text} {u : Unfolding} {s s' : Slot}
    (first : u.slot? p ps.isEmpty = some s) (second : u.slot? q qs.isEmpty = some s')
    (differ : s ≠ s') : Parted (p :: ps) (q :: qs) u
  | inside {p q : Text} {ps qs : List Text} {u : Unfolding} {s : Slot}
    (first : u.slot? p false = some s) (second : u.slot? q false = some s)
    (apart : Parted ps qs (u.inside s)) : Parted (p :: ps) (q :: qs) u

theorem place?_cons_eq_some {tokens : List Text} :
    u.place? x (token :: tokens) = some v ↔ ∃ s y, u.slot? token tokens.isEmpty = some s ∧
      (u.inside s).place? x tokens = some y ∧ v = u.assign s y := by
  rw [place?]
  simp only [Option.bind_eq_bind, Option.bind_eq_some_iff, Option.some.injEq]
  constructor
  · rintro ⟨s, hs, y, hy, rfl⟩
    exact ⟨s, y, hs, hy, rfl⟩
  · rintro ⟨s, y, hs, hy, rfl⟩
    exact ⟨s, hs, y, hy, rfl⟩

theorem inside_assign_self (hs : u.slot? token append = some s) (x : Unfolding) :
    (u.assign s x).inside s = x := by
  rw [inside, at?_assign_self hs]
  rfl

theorem inside_assign_of_ne (hs' : u.slot? token append = some s') (hne : s ≠ s')
    (x : Unfolding) : (u.assign s x).inside s' = u.inside s' := by
  rw [inside, at?_assign_of_ne hs' hne, inside]

theorem place?_comm {ps qs : List Text} {a b : Unfolding} (hparted : Parted ps qs u)
    (ha : u.place? x ps = some a) (hb : u.place? y qs = some b) :
    ∃ c d, a.place? y qs = some c ∧ b.place? x ps = some d ∧ Reordered c d := by
  induction hparted generalizing a b with
  | @here p q ps qs u s s' hs hs' hne =>
    obtain ⟨_, v, hp, hv, rfl⟩ := place?_cons_eq_some.1 ha
    cases hs.symm.trans hp
    obtain ⟨_, w, hq, hw, rfl⟩ := place?_cons_eq_some.1 hb
    cases hs'.symm.trans hq
    refine ⟨_, _, place?_cons_eq_some.2 ⟨s', w, slot?_assign hs hs' (.inl hne) v, ?_, rfl⟩,
      place?_cons_eq_some.2 ⟨s, v, slot?_assign hs' hs (.inl hne.symm) w, ?_, rfl⟩,
      assign_comm hs hs' hne v w⟩
    · rw [inside_assign_of_ne hs' hne, hw]
    · rw [inside_assign_of_ne hs hne.symm, hv]
  | @inside p q ps qs u s hs hs' apart ih =>
    -- Both go on, so neither of them appends here.
    have hps : ps.isEmpty = false := by cases apart <;> rfl
    have hqs : qs.isEmpty = false := by cases apart <;> rfl
    obtain ⟨_, v, hp, hv, rfl⟩ := place?_cons_eq_some.1 ha
    rw [hps] at hp
    cases hs.symm.trans hp
    obtain ⟨_, w, hq, hw, rfl⟩ := place?_cons_eq_some.1 hb
    rw [hqs] at hq
    cases hs'.symm.trans hq
    obtain ⟨c, d, hc, hd, hcd⟩ := ih hv hw
    refine ⟨_, _, place?_cons_eq_some.2 ⟨s, c, ?_, ?_, rfl⟩,
      place?_cons_eq_some.2 ⟨s, d, ?_, ?_, rfl⟩, ?_⟩
    · rw [hqs]
      exact slot?_assign hs hs' (.inr rfl) v
    · rw [inside_assign_self hs, hc]
    · rw [hps]
      exact slot?_assign hs' hs (.inr rfl) w
    · rw [inside_assign_self hs', hd]
    · rw [assign_assign hs, assign_assign hs]
      exact hcd.assign u s

theorem parted_of_not_prefix {ps qs : List Text} (hpq : ¬ ps <+: qs) (hqp : ¬ qs <+: ps) :
    Parted ps qs (.object []) := by
  induction ps generalizing qs with
  | nil => exact absurd List.nil_prefix hpq
  | cons p ps ih =>
    cases qs with
    | nil => exact absurd List.nil_prefix hqp
    | cons q qs =>
      by_cases he : p = q
      · subst he
        rw [List.cons_prefix_cons, and_iff_right rfl] at hpq hqp
        exact .inside rfl rfl (ih hpq hqp)
      · exact .here rfl rfl fun hs => he (Slot.key.inj hs)

end Unfolding
end NodeWalk
