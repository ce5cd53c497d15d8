import Mathlib.Data.List.Perm.Subperm
import NodeWalk.Proofs.MirroredWrites
import NodeWalk.Proofs.OneEntry
import NodeWalk.Proofs.ReadNodes
import NodeWalk.Service

set_option autoImplicit false

/-!
# Values that end

A value is grounded if all that it leads to is there and no container below it contains
itself. Such a value unfolds to a finite document, which can be written out unless one of
its integers is too long. Grounded values stay so while cells are only added, and what is
made of them is grounded again.
-/
namespace NodeWalk

namespace Objects

variable {ρ : Renaming} {s : Scope} {h g : Objects} {v x : Value} {a : Addr}

structure Grounded (h : Objects) (v : Value) : Prop where
  has : h.Has v
  acyclic : h.Acyclic v

theorem not_mem_reach_scalar (h : Objects) (b : Scalar) (a : Addr) : a ∉ h.reach (.scalar b) := by
  have hnone : ∀ a ∈ h.reach (.scalar b), False :=
    reach_subset (s := ∅) (fun _ ha => ha.elim) fun _ ha => nomatch ha
  exact hnone a

theorem grounded_scalar (h : Objects) (b : Scalar) : h.Grounded (.scalar b) where
  has a ha := absurd ha (not_mem_reach_scalar h b a)
  acyclic a ha := absurd ha (not_mem_reach_scalar h b a)

theorem Grounded.below (hv : h.Grounded v) (hx : ∀ b ∈ x.refs, b ∈ h.reach v) : h.Grounded x where
  has b hb := hv.has b (reach_mono hx b hb)
  acyclic b hb := hv.acyclic b (reach_mono hx b hb)

theorem Grounded.inside (hv : h.Grounded v) (ha : a ∈ h.reach v) (hx : x ∈ (h.cell a).values) :
    h.Grounded x :=
  hv.below fun b hb => closed_reach h v a ha b (List.mem_flatMap.2 ⟨x, hx, hb⟩)

theorem Grounded.of_find? {c : Cell} (hv : h.Grounded v) (hc : h.find? v = some c) :
    ∀ x ∈ c.values, h.Grounded x := by
  cases v with
  | scalar b => cases hc
  | ref a =>
    cases hc
    exact fun x hx => hv.inside (mem_reach_ref h a) hx

theorem hereditary_grounded (h : Objects) : h.Hereditary h.Grounded :=
  fun _ _ hv hc => hv.of_find? hc

theorem Images.acyclic_rename (hm : Images ρ (h.reached v) h g) (hv : h.Acyclic v) :
    g.Acyclic (rename ρ v) := by
  intro b hb y hy
  rw [hm.reach_rename (within_reached h v)] at hb
  obtain ⟨a, ha, rfl⟩ := List.mem_map.1 hb
  rw [hm.cell a ha, values_rename] at hy
  obtain ⟨x, hx, rfl⟩ := List.mem_map.1 hy
  have hinside : ∀ c ∈ h.reach x, c ∈ h.reach v := reach_inside ha hx
  rw [hm.reach_rename (within_reached_cell ha x hx), hm.mem_map_iff hinside ha]
  exact hv a ha x hx

theorem Grounded.kept (hv : h.Grounded v) (hk : h.Kept g) : g.Grounded v where
  has := hv.has.kept hk
  acyclic := by
    have ha := (hv.has.unchanged hk).images.acyclic_rename hv.acyclic
    rwa [Carries.same] at ha

theorem Grounded.copy (hv : h.Grounded v) : (h.copy v).2.Grounded (h.copy v).1 where
  has := has_copy h v
  acyclic := by
    have ha := (images_copy h v).acyclic_rename hv.acyclic
    rw [copy_eq] at ha ⊢
    exact ha

/-- A new container of grounded values is grounded, since none of them leads to it. -/
theorem grounded_append {c : Cell} (hc : ∀ x ∈ c.values, h.Grounded x) :
    (h.append [c]).Grounded (.ref h.cells.size) := by
  have hk := kept_append h [c]
  have hcell := cell_append_self h c
  have hclosed : (h.append [c]).Closed
      {a | a = h.cells.size ∨ ∃ x ∈ c.values, a ∈ h.reach x} := by
    rintro a (rfl | ⟨x, hx, ha⟩) b hb
    · rw [refsOf, hcell] at hb
      obtain ⟨x, hx, hb⟩ := List.mem_flatMap.1 hb
      exact .inr ⟨x, hx, mem_reach_of_mem_refs hb⟩
    · rw [refsOf, hk.cell a ((hc x hx).has a ha)] at hb
      exact .inr ⟨x, hx, closed_reach h x a ha b hb⟩
  have hreach := reach_subset (v := .ref h.cells.size) hclosed fun a ha =>
    .inl (List.mem_singleton.1 ha)
  constructor
  · intro a ha
    obtain rfl | ⟨x, hx, ha⟩ := hreach a ha
    · rw [size_append]
      exact Nat.lt_succ_self _
    · exact Nat.lt_of_lt_of_le ((hc x hx).has a ha) hk.size
  · intro a ha y hy
    obtain rfl | ⟨x, hx, ha⟩ := hreach a ha
    · rw [hcell] at hy
      rw [(hc y hy).has.reach_kept hk]
      exact fun hself => Nat.lt_irrefl _ ((hc y hy).has _ hself)
    · rw [← (hc x hx).has.reach_kept hk] at ha
      exact ((hc x hx).kept hk).acyclic a ha y hy

theorem grounded_newArray {items : List Value} (hitems : ∀ x ∈ items, h.Grounded x) :
    (h.newArray items).2.Grounded (h.newArray items).1 := by
  rw [newArray_eq]
  exact grounded_append hitems

theorem grounded_newObject {es : Entries Value} (hes : ∀ e ∈ es, h.Grounded e.2) :
    (h.newObject es).2.Grounded (h.newObject es).1 := by
  rw [newObject_eq]
  exact grounded_append (List.forall_mem_map.2 hes)

def Loads (j : Json) : Prop :=
  ∀ h : Objects, h.Kept (h.load j).2 ∧ (h.load j).2.Grounded (h.load j).1

theorem grounded_loadItems {items : List Json} (hitems : ∀ j ∈ items, Loads j)
    (h : Objects) : h.Kept (h.loadItems items).2 ∧
      ∀ x ∈ (h.loadItems items).1, (h.loadItems items).2.Grounded x := by
  induction items generalizing h with
  | nil => exact ⟨.refl h, List.forall_mem_nil _⟩
  | cons j js ih =>
    obtain ⟨hj, hjs⟩ := List.forall_mem_cons.1 hitems
    obtain ⟨hk, hv⟩ := hj h
    obtain ⟨hk', hvs⟩ := ih hjs (h.load j).2
    exact ⟨hk.trans hk', List.forall_mem_cons.2 ⟨hv.kept hk', hvs⟩⟩

theorem grounded_loadMembers {entries : List (Text × Json)}
    (hentries : ∀ e ∈ entries, Loads e.2) (h : Objects) :
    h.Kept (h.loadMembers entries).2 ∧
      ∀ e ∈ (h.loadMembers entries).1, (h.loadMembers entries).2.Grounded e.2 := by
  induction entries generalizing h with
  | nil => exact ⟨.refl h, List.forall_mem_nil _⟩
  | cons e es ih =>
    obtain ⟨he, hes⟩ := List.forall_mem_cons.1 hentries
    obtain ⟨hk, hv⟩ := he h
    obtain ⟨hk', hvs⟩ := ih hes (h.load e.2).2
    exact ⟨hk.trans hk', List.forall_mem_cons.2 ⟨hv.kept hk', hvs⟩⟩

theorem loads (j : Json) : Loads j := by
  induction j using Json.induct with
  | scalar a => exact fun h => ⟨.refl h, grounded_scalar h a⟩
  | array items ih =>
    intro h
    obtain ⟨hk, hvs⟩ := grounded_loadItems ih h
    exact ⟨hk.trans (kept_newArray _ _), grounded_newArray hvs⟩
  | object entries ih =>
    intro h
    obtain ⟨hk, hes⟩ := grounded_loadMembers ih h
    exact ⟨hk.trans (kept_newObject _ _), grounded_newObject hes⟩

theorem exists_unfoldings {P : Scalar → Prop} {f : Value → Unfolding} {items : List Value}
    (hf : ∀ x ∈ items, ∃ j : Json, j.Every P ∧ f x = j.unfolding) :
    ∃ js : List Json, (∀ j ∈ js, j.Every P) ∧ items.map f = Json.unfoldings js := by
  induction items with
  | nil => exact ⟨[], List.forall_mem_nil _, rfl⟩
  | cons x xs ih =>
    obtain ⟨hx, hxs⟩ := List.forall_mem_cons.1 hf
    obtain ⟨j, hj, he⟩ := hx
    obtain ⟨js, hjs, hes⟩ := ih hxs
    refine ⟨j :: js, List.forall_mem_cons.2 ⟨hj, hjs⟩, ?_⟩
    rw [List.map_cons, he, hes, Json.unfoldings]

theorem exists_memberUnfoldings {P : Scalar → Prop} {f : Value → Unfolding}
    {entries : Entries Value} (hf : ∀ e ∈ entries, ∃ j : Json, j.Every P ∧ f e.2 = j.unfolding) :
    ∃ js : List (Text × Json), (∀ e ∈ js, e.2.Every P) ∧
      entries.map (fun e => (e.1, f e.2)) = Json.memberUnfoldings js := by
  induction entries with
  | nil => exact ⟨[], List.forall_mem_nil _, rfl⟩
  | cons e es ih =>
    obtain ⟨hx, hxs⟩ := List.forall_mem_cons.1 hf
    obtain ⟨j, hj, he⟩ := hx
    obtain ⟨js, hjs, hes⟩ := ih hxs
    refine ⟨(e.1, j) :: js, List.forall_mem_cons.2 ⟨hj, hjs⟩, ?_⟩
    rw [List.map_cons, he, hes, Json.memberUnfoldings]

/-- What stands in a container of an acyclic value leads to less than the container. -/
theorem Acyclic.reach_lt (hx : h.Acyclic (.ref a)) (hv : v ∈ (h.cell a).values) :
    a ∉ h.reach v ∧ (h.reach v).length < (h.reach (.ref a)).length := by
  have ha := mem_reach_ref h a
  have hself := hx a ha v hv
  have hcons : (a :: h.reach v).length ≤ (h.reach (.ref a)).length :=
    (List.subperm_of_subset (List.nodup_cons.2 ⟨hself, nodup_reach h v⟩)
      (List.cons_subset.2 ⟨ha, reach_inside ha hv⟩)).length_le
  exact ⟨hself, hcons⟩

/-- Each level leaves out the container it has come through, so no more levels are needed
than cells are reached. -/
theorem unfoldIn_of_acyclic {P : Scalar → Prop} (depth : Nat) {outer : List Addr}
    (hx : h.Acyclic x) (hp : h.Every P x) (hout : ∀ b ∈ outer, b ∉ h.reach x)
    (hdepth : (h.reach x).length ≤ depth) :
    ∃ j : Json, j.Every P ∧ h.unfoldIn depth outer x = j.unfolding := by
  induction depth generalizing outer x with
  | zero =>
    cases x with
    | scalar a => exact ⟨.scalar a, .scalar (hp.self a rfl), rfl⟩
    | ref a =>
      have hpos := List.length_pos_of_mem (mem_reach_ref h a)
      omega
  | succ depth ih =>
    cases x with
    | scalar a => exact ⟨.scalar a, .scalar (hp.self a rfl), rfl⟩
    | ref a =>
      have ha := mem_reach_ref h a
      have hnot : outer.idxOf? a = none := by
        rw [List.idxOf?_eq_none_iff]
        exact fun hm => hout a hm ha
      have hbelow {y : Value} (hy : y ∈ (h.cell a).values) :
          ∃ j : Json, j.Every P ∧ h.unfoldIn depth (a :: outer) y = j.unfolding := by
        obtain ⟨hself, hlt⟩ := hx.reach_lt hy
        refine ih (hx.inside ha hy) (hp.of_mem rfl hy) (List.forall_mem_cons.2 ⟨hself, ?_⟩)
          (by omega)
        exact fun b hb hby => hout b hb (reach_inside ha hy b hby)
      rw [unfoldIn, hnot]
      cases hc : h.cell a with
      | array items =>
        rw [hc] at hbelow
        obtain ⟨js, hjs, he⟩ := exists_unfoldings fun y hy => hbelow hy
        exact ⟨.array js, .array hjs, congrArg Unfolding.array he⟩
      | object entries =>
        rw [hc] at hbelow
        obtain ⟨js, hjs, he⟩ := exists_memberUnfoldings fun e he =>
          hbelow (List.mem_map_of_mem (f := Prod.snd) he)
        exact ⟨.object js, .object hjs, congrArg Unfolding.object he⟩

theorem Grounded.exists_json {P : Scalar → Prop} (hv : h.Grounded v) (hp : h.Every P v) :
    ∃ j : Json, j.Every P ∧ h.unfold v = j.unfolding :=
  unfoldIn_of_acyclic _ hv.acyclic hp (List.forall_mem_nil _) (Nat.le_succ _)

end Objects

theorem Scalar.writable_of_document? {a : Scalar} (h : a.document? = none) : ¬ a.Writable := by
  intro hw
  cases a with
  | int n => simp [document?, Numeral.write?, hw n rfl] at h
  | _ => cases h

namespace Unfolding

variable {P : Scalar → Prop} {r : Except Broken String} {k : String → Except Broken String}
  {j : Json}

def Writes (P : Scalar → Prop) : Except Broken String → Prop
  | .ok _ => True
  | .error b => b.error = .integerTooLong ∧ ¬ ∀ a, P a → a.Writable

theorem Writes.bind (hr : Writes P r) (hk : ∀ out, Writes P (k out)) : Writes P (r >>= k) := by
  cases r with
  | error b => exact hr
  | ok out => exact hk out

theorem writes_items {js : List Json}
    (hjs : ∀ j ∈ js, ∀ depth out lead, Writes P (writeAt depth out lead j.unfolding))
    (depth : Nat) (out : String) : Writes P (writeItems depth out (Json.unfoldings js)) := by
  induction js generalizing out with
  | nil => trivial
  | cons j js ih =>
    obtain ⟨hj, hjs⟩ := List.forall_mem_cons.1 hjs
    exact (hj depth out _).bind fun out => ih hjs out

theorem writes_members {es : List (Text × Json)}
    (hes : ∀ e ∈ es, ∀ depth out lead, Writes P (writeAt depth out lead e.2.unfolding))
    (depth : Nat) (out : String) :
    Writes P (writeMembers depth out (Json.memberUnfoldings es)) := by
  induction es generalizing out with
  | nil => trivial
  | cons e es ih =>
    obtain ⟨he, hes⟩ := List.forall_mem_cons.1 hes
    exact (he depth _ _).bind fun out => ih hes out

theorem writes_unfolding (hj : j.Every P) (depth : Nat) (out lead : String) :
    Writes P (writeAt depth out lead j.unfolding) := by
  induction hj generalizing depth out lead with
  | @scalar a ha =>
    rw [Json.unfolding, writeAt]
    cases hd : a.document? with
    | some text => trivial
    | none => exact ⟨rfl, fun hall => Scalar.writable_of_document? hd (hall a ha)⟩
  | @array items _ ih =>
    cases items with
    | nil => trivial
    | cons j js =>
      obtain ⟨hj, hjs⟩ := List.forall_mem_cons.1 ih
      exact (hj _ _ _).bind fun out => (writes_items hjs _ out).bind fun _ => trivial
  | @object entries _ ih =>
    cases entries with
    | nil => trivial
    | cons e es =>
      obtain ⟨he, hes⟩ := List.forall_mem_cons.1 ih
      exact (he _ _ _).bind fun out => (writes_members hes _ out).bind fun _ => trivial

end Unfolding

namespace Service

variable {blank : Option Scalar}

theorem isSome_items? {js : List Json}
    (hjs : ∀ j ∈ js, (rendered? blank j.unfolding).isSome = true) :
    (items? blank (Json.unfoldings js)).isSome = true := by
  induction js with
  | nil => rfl
  | cons j js ih =>
    obtain ⟨hj, hjs⟩ := List.forall_mem_cons.1 hjs
    obtain ⟨w, hw⟩ := Option.isSome_iff_exists.1 hj
    obtain ⟨ws, hws⟩ := Option.isSome_iff_exists.1 (ih hjs)
    simp [Json.unfoldings, items?, hw, hws]

theorem isSome_entries? {es : List (Text × Json)}
    (hes : ∀ e ∈ es, (rendered? blank e.2.unfolding).isSome = true)
    (hkeys : ∀ e ∈ es, e.1.isWhole = true) :
    (entries? blank (Json.memberUnfoldings es)).isSome = true := by
  induction es with
  | nil => rfl
  | cons e es ih =>
    obtain ⟨he, hes⟩ := List.forall_mem_cons.1 hes
    obtain ⟨hkey, hkeys⟩ := List.forall_mem_cons.1 hkeys
    obtain ⟨w, hw⟩ := Option.isSome_iff_exists.1 he
    obtain ⟨ws, hws⟩ := Option.isSome_iff_exists.1 (ih hes hkeys)
    simp [Json.memberUnfoldings, entries?, hw, hws, hkey]

theorem isSome_rendered? {j : Json} {a : Scalar} (hj : j.Every Scalar.Writable)
    (htexts : j.unfolding.EveryText fun s => s.isWhole = true) :
    (rendered? (some a) j.unfolding).isSome = true := by
  induction hj with
  | @scalar b hb =>
    cases htexts with
    | scalar hwhole =>
      cases b with
      | int n => simp [Json.unfolding, rendered?, scalar?, hb n rfl]
      | text s => simp [Json.unfolding, rendered?, scalar?, hwhole s rfl]
      | float x =>
        rw [Json.unfolding, rendered?, scalar?, Option.isSome_map]
        split <;> rfl
      | _ => rfl
  | array _ ih =>
    rw [Json.unfolding, Json.unfoldings_eq] at htexts
    cases htexts with
    | array hitems =>
      have hall := isSome_items? fun j hj => ih j hj (List.forall_mem_map.1 hitems j hj)
      rw [Json.unfolding, rendered?, Option.isSome_map, hall]
  | object _ ih =>
    rw [Json.unfolding, Json.memberUnfoldings_eq] at htexts
    cases htexts with
    | object hkeys hentries =>
      rw [← Json.memberUnfoldings_eq, Json.keys_memberUnfoldings] at hkeys
      have hall := isSome_entries? (fun e he => ih e he (List.forall_mem_map.1 hentries e he))
        (List.forall_mem_map.1 hkeys)
      rw [Json.unfolding, rendered?, Option.isSome_map, hall]

end Service
end NodeWalk
