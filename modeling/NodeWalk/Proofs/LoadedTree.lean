import NodeWalk.Proofs.Grounded

set_option autoImplicit false

/-!
# Loaded trees

A value in which no container contains itself unfolds part by part, wherever it stands. So a
document that was loaded unfolds to the tree it was loaded from.
-/
namespace NodeWalk.Objects

variable {h : Objects} {v x : Value} {a : Addr}

/-- Below an acyclic value neither the depth nor what is around it matters. -/
theorem unfoldIn_congr {depth depth' : Nat} {outer outer' : List Addr} (hx : h.Acyclic x)
    (hout : ∀ b ∈ outer, b ∉ h.reach x) (hout' : ∀ b ∈ outer', b ∉ h.reach x)
    (hdepth : (h.reach x).length ≤ depth) (hdepth' : (h.reach x).length ≤ depth') :
    h.unfoldIn depth outer x = h.unfoldIn depth' outer' x := by
  induction depth generalizing depth' outer outer' x with
  | zero =>
    cases x with
    | scalar a => rw [unfoldIn, unfoldIn]
    | ref a =>
      have hpos := List.length_pos_of_mem (mem_reach_ref h a)
      omega
  | succ depth ih =>
    cases x with
    | scalar a => rw [unfoldIn, unfoldIn]
    | ref a =>
      have ha := mem_reach_ref h a
      obtain ⟨depth', rfl⟩ : ∃ n, depth' = n + 1 := by
        have hpos := List.length_pos_of_mem ha
        exact ⟨depth' - 1, by omega⟩
      have hnot {outer : List Addr} (hout : ∀ b ∈ outer, b ∉ h.reach (.ref a)) :
          outer.idxOf? a = none := List.idxOf?_eq_none_iff.2 fun hm => hout a hm ha
      have hbelow {y : Value} (hy : y ∈ (h.cell a).values) :
          h.unfoldIn depth (a :: outer) y = h.unfoldIn depth' (a :: outer') y := by
        obtain ⟨hself, hlt⟩ := hx.reach_lt hy
        have hinside : ∀ b ∈ h.reach y, b ∈ h.reach (.ref a) := reach_inside ha hy
        exact ih (hx.inside ha hy)
          (List.forall_mem_cons.2 ⟨hself, fun b hb hby => hout b hb (hinside b hby)⟩)
          (List.forall_mem_cons.2 ⟨hself, fun b hb hby => hout' b hb (hinside b hby)⟩)
          (by omega) (by omega)
      rw [unfoldIn, unfoldIn, hnot hout, hnot hout']
      cases hc : h.cell a with
      | array items =>
        rw [hc] at hbelow
        exact congrArg Unfolding.array (List.map_congr_left fun y hy => hbelow hy)
      | object entries =>
        rw [hc] at hbelow
        exact congrArg Unfolding.object (List.map_congr_left fun e he => by
          rw [hbelow (List.mem_map_of_mem (f := Prod.snd) he)])

def unfoldCell (h : Objects) : Cell → Unfolding
  | .array items => .array (items.map h.unfold)
  | .object entries => .object (entries.map fun e => (e.1, h.unfold e.2))

theorem unfold_ref (hx : h.Acyclic (.ref a)) : h.unfold (.ref a) = h.unfoldCell (h.cell a) := by
  have hbelow {y : Value} (hy : y ∈ (h.cell a).values) :
      h.unfoldIn (h.reach (.ref a)).length [a] y = h.unfold y := by
    obtain ⟨hself, hlt⟩ := hx.reach_lt hy
    exact unfoldIn_congr (hx.inside (mem_reach_ref h a) hy) (List.forall_mem_singleton.2 hself)
      (List.forall_mem_nil _) (Nat.le_of_lt hlt) (Nat.le_succ _)
  rw [unfold, unfoldIn]
  cases hc : h.cell a with
  | array items =>
    rw [hc] at hbelow
    exact congrArg Unfolding.array (List.map_congr_left fun y hy => hbelow hy)
  | object entries =>
    rw [hc] at hbelow
    exact congrArg Unfolding.object (List.map_congr_left fun e he => by
      rw [hbelow (List.mem_map_of_mem (f := Prod.snd) he)])

theorem unfold_append {c : Cell} (hc : ∀ x ∈ c.values, h.Grounded x) :
    (h.append [c]).unfold (.ref h.cells.size) = h.unfoldCell c := by
  have hk := kept_append h [c]
  rw [unfold_ref (grounded_append hc).acyclic, cell_append_self]
  cases c with
  | array items =>
    exact congrArg Unfolding.array (List.map_congr_left fun x hx => (hc x hx).has.unfold hk)
  | object entries =>
    exact congrArg Unfolding.object (List.map_congr_left fun e he => by
      rw [(hc e.2 (List.mem_map_of_mem (f := Prod.snd) he)).has.unfold hk])

def LoadsAs (j : Json) : Prop := ∀ h : Objects, (h.load j).2.unfold (h.load j).1 = j.unfolding

theorem unfold_loadItems {items : List Json} (hitems : ∀ j ∈ items, LoadsAs j) (h : Objects) :
    (h.loadItems items).1.map (h.loadItems items).2.unfold = Json.unfoldings items := by
  induction items generalizing h with
  | nil => rfl
  | cons j js ih =>
    obtain ⟨hj, hjs⟩ := List.forall_mem_cons.1 hitems
    obtain ⟨hk, -⟩ := grounded_loadItems (fun k (_ : k ∈ js) => loads k) (h.load j).2
    have hfirst := ((loads j h).2.has.unfold hk).trans (hj h)
    exact congrArg₂ List.cons hfirst (ih hjs (h.load j).2)

theorem unfold_loadMembers {entries : List (Text × Json)}
    (hentries : ∀ e ∈ entries, LoadsAs e.2) (h : Objects) :
    ((h.loadMembers entries).1.map fun e => (e.1, (h.loadMembers entries).2.unfold e.2)) =
      Json.memberUnfoldings entries := by
  induction entries generalizing h with
  | nil => rfl
  | cons e es ih =>
    obtain ⟨he, hes⟩ := List.forall_mem_cons.1 hentries
    obtain ⟨hk, -⟩ := grounded_loadMembers (fun d (_ : d ∈ es) => loads d.2) (h.load e.2).2
    have hfirst := ((loads e.2 h).2.has.unfold hk).trans (he h)
    exact congrArg₂ List.cons (congrArg (Prod.mk e.1) hfirst) (ih hes (h.load e.2).2)

theorem unfold_load (j : Json) : LoadsAs j := by
  induction j using Json.induct with
  | scalar a => exact fun h => by rw [load, unfold, unfoldIn, Json.unfolding]
  | array items ih =>
    intro h
    obtain ⟨-, hvs⟩ := grounded_loadItems (fun j (_ : j ∈ items) => loads j) h
    have hload : h.load (.array items) =
        newArray (h.loadItems items).1 (h.loadItems items).2 := rfl
    rw [hload, newArray_eq, Json.unfolding, unfold_append (c := .array _) hvs]
    exact congrArg Unfolding.array (unfold_loadItems ih h)
  | object entries ih =>
    intro h
    obtain ⟨-, hes⟩ := grounded_loadMembers (fun e (_ : e ∈ entries) => loads e.2) h
    have hload : h.load (.object entries) =
        newObject (h.loadMembers entries).1 (h.loadMembers entries).2 := rfl
    rw [hload, newObject_eq, Json.unfolding,
      unfold_append (c := .object _) (List.forall_mem_map.2 hes)]
    exact congrArg Unfolding.object (unfold_loadMembers ih h)

end NodeWalk.Objects
