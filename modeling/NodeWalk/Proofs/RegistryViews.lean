import NodeWalk.Proofs.ReadAgain
import NodeWalk.Proofs.TreeOrder
import NodeWalk.Proofs.WritingRuns

set_option autoImplicit false

/-!
# The views of a registry

Whatever was asked of a registry, each of its views shows the same behaviors: those of the latest
changes to their types. What holds all of them together is that only types that can be split
are ever registered, so that splitting a type and joining it again finds what stands under it.
-/
namespace NodeWalk

namespace NodeType

variable {type category name : Text}

theorem not_dot_mem_category (type : Text) : .char '.' ∉ (parts type).1.points := by
  intro hdot
  simpa using List.mem_takeWhile_imp hdot

theorem parts_join (h : .char '.' ∉ category.points) :
    parts (category ++ "." ++ name) = (category, name) := by
  have hne : ∀ c ∈ category.points, (c != .char '.') = true := by
    intro c hc
    rw [bne_iff_ne]
    rintro rfl
    exact h hc
  simp [parts, List.takeWhile_append_of_pos hne, List.dropWhile_append_of_pos hne]

theorem parts_of_split {p : Text × Text} (h : split type = .ok p) :
    parts type = p ∧ p.1 ≠ "" ∧ p.2 ≠ "" := by
  unfold split at h
  dsimp only at h
  split at h
  · cases h
  · rename_i hparts
    cases h
    exact ⟨rfl, not_or.1 hparts⟩

theorem split_error {f : Fault} (h : split type = .error f) : f = .unknownType type none := by
  unfold split at h
  dsimp only at h
  split at h
  · cases h
    rfl
  · cases h

theorem split_eq_ok_iff : split type = .ok (category, name) ↔
    type = category ++ "." ++ name ∧ category ≠ "" ∧ .char '.' ∉ category.points ∧ name ≠ "" := by
  constructor
  · intro h
    obtain ⟨hparts, hcategory, hname⟩ := parts_of_split h
    have hdot := not_dot_mem_category type
    rw [hparts] at hdot
    exact ⟨(type_of_split h).symm, hcategory, hdot, hname⟩
  · rintro ⟨rfl, hcategory, hdot, hname⟩
    simp [split, parts_join hdot, hcategory, hname]

example : split "a..b" = .ok (↑"a", ↑".b") := by
  rw [split_eq_ok_iff]
  decide

end NodeType

namespace Registry

inductive Request where
  | register (type : Text) (candidate : Candidate) (replace : Bool)
  | decorate (type : Text) (target : Target) (replace : Bool)
  | unregister (type : Text)

inductive Change where
  | registered (type : Text) (b : Registered)
  | unregistered (type : Text)

def Change.type : Change → Text
  | .registered type _ => type
  | .unregistered type => type

/-- The latest change to the type was that the behavior was registered under it. -/
def Standing (changes : List Change) (type : Text) (b : Registered) : Prop :=
  ∃ before after, changes = before ++ .registered type b :: after ∧ ∀ c ∈ after, c.type ≠ type

theorem not_standing_nil {type : Text} {b : Registered} : ¬ Standing [] type b := by
  rintro ⟨before, after, h, -⟩
  simp at h

theorem standing_concat {changes : List Change} {c : Change} {type : Text} {b : Registered} :
    Standing (changes ++ [c]) type b ↔
      c = .registered type b ∨ c.type ≠ type ∧ Standing changes type b := by
  constructor
  · rintro ⟨before, after, h, hafter⟩
    rcases List.eq_nil_or_concat after with rfl | ⟨after, d, rfl⟩
    · obtain ⟨-, hc⟩ := List.append_inj' h rfl
      exact .inl (List.singleton_inj.1 hc)
    · rw [List.concat_eq_append, ← List.cons_append, ← List.append_assoc] at h
      obtain ⟨hchanges, hd⟩ := List.append_inj' h rfl
      cases hd
      exact .inr ⟨hafter c (by simp), before, after, hchanges, fun c hc => hafter c (by simp [hc])⟩
  · rintro (rfl | ⟨hne, before, after, rfl, hafter⟩)
    · exact ⟨changes, [], rfl, fun _ hc => nomatch hc⟩
    · refine ⟨before, after ++ [c], by simp, fun d hd => ?_⟩
      rcases List.mem_append.1 hd with hd | hd
      · exact hafter d hd
      · rwa [List.mem_singleton.1 hd]

/-- A registry together with the changes that made it what it is, earliest first. -/
structure History where
  changes : List Change
  registry : Registry

variable {r r' : Registry} {q : Request} {change : Change} {type : Text} {b : Registered}
  {candidate : Candidate} {target : Target} {replace : Bool} {f : Fault}

def serve (r : Registry) : Request → Except Fault (Change × Registry)
  | .register type candidate replace =>
    (r.register type candidate replace).map fun p => (.registered type p.1, p.2)
  | .decorate type target replace =>
    (r.decorate type target replace).map fun p => (.registered type p.1, p.2)
  | .unregister type => .ok (.unregistered type, (r.unregister type).2)

def apply (r : Registry) : Change → Registry
  | .registered type b => ⟨Entries.set type b r.entries⟩
  | .unregistered type => ⟨Entries.erase type r.entries⟩

/-- Registering fails for a type that cannot be split, one that is taken unless it may be
replaced, and something that is no behavior, and in this order. -/
theorem register_eq_error_iff : r.register type candidate replace = .error f ↔
    NodeType.split type = .error f ∨
      (∃ p, NodeType.split type = .ok p) ∧
        (r.contains type = true ∧ replace = false ∧ f = .alreadyRegistered type ∨
          ¬(r.contains type = true ∧ replace = false) ∧ candidate.registered? = none ∧
            f = .notBehavior type) := by
  unfold register
  cases NodeType.split type with
  | error g => simp [bind, Except.bind]
  | ok p =>
    cases hc : r.contains type <;> cases replace <;> cases candidate.registered? <;>
      simp [bind, Except.bind, eq_comm]

/-- A call that does not fail makes one change, and only registers types that can be split. -/
theorem serve_ok (h : r.serve q = .ok (change, r')) : r' = r.apply change ∧
    ∀ type b, change = .registered type b → ∃ p, NodeType.split type = .ok p := by
  have hregister {type : Text} {candidate : Candidate} {replace : Bool}
      {p : Registered × Registry} (hp : r.register type candidate replace = .ok p) :
      p.2 = r.apply (.registered type p.1) ∧
        ∀ t b, Change.registered type p.1 = .registered t b → ∃ p, NodeType.split t = .ok p := by
    obtain ⟨hsplit, -, hr⟩ := register_ok hp
    refine ⟨hr, fun t b hc => ?_⟩
    cases hc
    exact hsplit
  cases q with
  | register type candidate replace =>
    obtain ⟨p, hp, hc⟩ := map_ok_iff.1 h
    cases hc
    exact hregister hp
  | decorate type target replace =>
    obtain ⟨p, hp, hc⟩ := map_ok_iff.1 h
    obtain ⟨c, -, hp⟩ := bind_ok_iff.1 hp
    cases hc
    exact hregister hp
  | unregister type =>
    cases h
    exact ⟨rfl, fun _ _ hc => nomatch hc⟩

/-- The registry holds what stands after the changes, under types that can be split. -/
structure Reflects (r : Registry) (changes : List Change) : Prop where
  distinct : (Entries.keys r.entries).Nodup
  splits : ∀ type ∈ Entries.keys r.entries, ∃ p, NodeType.split type = .ok p
  get?_iff : ∀ type b, r.get? type = some b ↔ Standing changes type b

namespace Reflects

variable {changes : List Change}

theorem nothing : Registry.empty.Reflects [] where
  distinct := List.nodup_nil
  splits _ h := nomatch h
  get?_iff _ _ := ⟨fun h => (nomatch h), fun h => (not_standing_nil h).elim⟩

theorem apply_registered (h : r.Reflects changes) {p : Text × Text}
    (hp : NodeType.split type = .ok p) (b : Registered) :
    (r.apply (.registered type b)).Reflects (changes ++ [.registered type b]) where
  distinct := Entries.nodup_set h.distinct type b
  splits t ht := by
    rw [apply, Entries.keys_set] at ht
    split at ht
    · exact h.splits t ht
    · rcases List.mem_append.1 ht with ht | ht
      · exact h.splits t ht
      · exact ⟨p, List.mem_singleton.1 ht ▸ hp⟩
  get?_iff t d := by
    rw [standing_concat, ← h.get?_iff, get?, apply]
    by_cases ht : t = type
    · subst ht
      simp [Entries.get?_set_self, Change.type]
    · have hne : type ≠ t := fun hc => ht hc.symm
      simp [Entries.get?_set_of_ne ht, Change.type, hne, get?]

theorem apply_unregistered (h : r.Reflects changes) (type : Text) :
    (r.apply (.unregistered type)).Reflects (changes ++ [.unregistered type]) where
  distinct := by
    rw [apply, Entries.keys_erase]
    exact h.distinct.erase type
  splits t ht := by
    rw [apply, Entries.keys_erase] at ht
    exact h.splits t (List.mem_of_mem_erase ht)
  get?_iff t d := by
    rw [standing_concat, ← h.get?_iff, get?, apply]
    by_cases ht : t = type
    · subst ht
      have hgone : Entries.get? t (Entries.erase t r.entries) = none := by
        rw [← Option.not_isSome_iff_eq_none]
        intro hsome
        have hmem := (Entries.contains_iff_mem_keys t _).1 hsome
        rw [Entries.keys_erase] at hmem
        exact h.distinct.not_mem_erase hmem
      simp [hgone, Change.type]
    · have hne : type ≠ t := fun hc => ht hc.symm
      simp [Entries.get?_erase_of_ne ht, Change.type, hne, get?]

theorem serve (h : r.Reflects changes) (hq : r.serve q = .ok (change, r')) :
    r'.Reflects (changes ++ [change]) := by
  obtain ⟨rfl, hsplits⟩ := serve_ok hq
  cases change with
  | registered type b =>
    obtain ⟨p, hp⟩ := hsplits type b rfl
    exact h.apply_registered hp b
  | unregistered type => exact h.apply_unregistered type

end Reflects

namespace History

/-- A call that fails leaves the registry as it is. -/
def attend (h : History) (q : Request) : History :=
  match h.registry.serve q with
  | .ok (change, r) => ⟨h.changes ++ [change], r⟩
  | .error _ => h

/-- A new registry after the calls, of which any may have failed. -/
def after (qs : List Request) : History := qs.foldl attend ⟨[], .empty⟩

theorem attend_of_error {h : History} {q : Request} {f : Fault}
    (hq : h.registry.serve q = .error f) : h.attend q = h := by
  rw [attend, hq]

theorem reflects_attend {h : History} (hh : h.registry.Reflects h.changes) (q : Request) :
    (h.attend q).registry.Reflects (h.attend q).changes := by
  unfold attend
  cases hq : h.registry.serve q with
  | error f => exact hh
  | ok p => exact hh.serve hq

theorem reflects_after (qs : List Request) :
    (after qs).registry.Reflects (after qs).changes := by
  have hfold (h : History) (hh : h.registry.Reflects h.changes) :
      (qs.foldl attend h).registry.Reflects (qs.foldl attend h).changes := by
    induction qs generalizing h with
    | nil => exact hh
    | cons q qs ih => exact ih _ (reflects_attend hh q)
  exact hfold _ .nothing

end History

variable {changes : List Change}

theorem mem_nodeTypes {type : Text} : type ∈ r.nodeTypes ↔ r.contains type = true := by
  rw [nodeTypes, List.mem_mergeSort, ← Entries.contains_iff_mem_keys]
  exact Iff.rfl

theorem length_nodeTypes (r : Registry) : r.nodeTypes.length = r.size := by
  rw [nodeTypes, List.length_mergeSort, Entries.keys, List.length_map, size]

namespace Reflects

theorem pairwise_nodeTypes (h : r.Reflects changes) :
    r.nodeTypes.Pairwise (compare · · = .lt) := by
  have trans (s t u : Text) : (compare s t).isLE = true → (compare t u).isLE = true →
      (compare s u).isLE = true := Std.TransOrd.isLE_trans
  have total (s t : Text) : ((compare s t).isLE || (compare t s).isLE) = true := by
    rw [Std.OrientedOrd.eq_swap (a := t)]
    cases compare s t <;> rfl
  have hle : r.nodeTypes.Pairwise fun s t => (compare s t).isLE = true :=
    List.pairwise_mergeSort trans total _
  have hne : r.nodeTypes.Pairwise (· ≠ ·) :=
    (List.mergeSort_perm _ _).nodup_iff.2 h.distinct
  refine hle.imp₂ (fun s t hle hne => ?_) hne
  cases hst : compare s t with
  | lt => rfl
  | eq => exact absurd (Std.LawfulEqOrd.eq_of_compare hst) hne
  | gt =>
    rw [hst] at hle
    cases hle

theorem splits_nodeTypes (h : r.Reflects changes) {type : Text} (ht : type ∈ r.nodeTypes) :
    ∃ p, NodeType.split type = .ok p :=
  h.splits type (List.mem_mergeSort.1 ht)

end Reflects

theorem among_eq {category : Text} {types : List Text}
    (h : ∀ type ∈ types, ∃ p, NodeType.split type = .ok p) :
    typesIn.among category types =
      .ok (types.filter fun type => (NodeType.parts type).1 = category) := by
  induction types with
  | nil => rfl
  | cons type types ih =>
    obtain ⟨p, hp⟩ := h type List.mem_cons_self
    have hparts := (NodeType.parts_of_split hp).1
    simp only [typesIn.among, hp, ih fun t ht => h t (List.mem_cons_of_mem _ ht), bind,
      Except.bind, List.filter_cons, hparts, decide_eq_true_eq]

structure Shows (r : Registry) (changes : List Change) : Prop where
  contained : ∀ type, r.contains type = true ↔ ∃ b, Standing changes type b
  /-- What stands is found under its type, whole or split. -/
  found : ∀ type b, Standing changes type b → r.get? type = some b ∧
    ∃ category name, NodeType.split type = .ok (category, name) ∧ r.lookup category name = .ok b
  missing : ∀ type, (∀ b, ¬ Standing changes type b) → r.get? type = none ∧
    (NodeType.split type >>= fun p => r.lookup p.1 p.2) = .error (.unknownType type none)
  increasing : r.nodeTypes.Pairwise (compare · · = .lt)
  listed : ∀ type, type ∈ r.nodeTypes ↔ r.contains type = true
  counted : r.nodeTypes.length = r.size
  /-- A category is what stands before the first dot, and to list it never fails. -/
  ofCategory : ∀ category, r.typesIn category = .ok (r.nodeTypes.filter fun type =>
    ⟨type.points.takeWhile (· != .char '.')⟩ = category)

namespace Reflects

theorem contains_iff (h : r.Reflects changes) {type : Text} :
    r.contains type = true ↔ ∃ b, Standing changes type b := by
  rw [contains, Option.isSome_iff_exists]
  exact exists_congr (h.get?_iff type)

theorem lookup_split (h : r.Reflects changes) {type : Text} {b : Registered}
    (hb : Standing changes type b) :
    ∃ category name, NodeType.split type = .ok (category, name) ∧
      r.lookup category name = .ok b := by
  have hget := (h.get?_iff type b).2 hb
  obtain ⟨⟨category, name⟩, hp⟩ :=
    h.splits type ((Entries.contains_iff_mem_keys _ _).1 (h.contains_iff.2 ⟨b, hb⟩))
  have hjoin := NodeType.type_of_split hp
  exact ⟨category, name, hp, by simp only [lookup, hjoin, hget]⟩

theorem lookup_missing (h : r.Reflects changes) {type : Text}
    (hnone : ∀ b, ¬ Standing changes type b) :
    r.get? type = none ∧
      (NodeType.split type >>= fun p => r.lookup p.1 p.2) = .error (.unknownType type none) := by
  have hget : r.get? type = none :=
    Option.eq_none_iff_forall_ne_some.2 fun b hb => hnone b ((h.get?_iff type b).1 hb)
  refine ⟨hget, ?_⟩
  cases hp : NodeType.split type with
  | error f => exact congrArg Except.error (NodeType.split_error hp)
  | ok p =>
    have hjoin := NodeType.type_of_split hp
    simp only [bind, Except.bind, lookup, hjoin, hget]

theorem shows (h : r.Reflects changes) : r.Shows changes where
  contained _ := h.contains_iff
  found type b hb := ⟨(h.get?_iff type b).2 hb, h.lookup_split hb⟩
  missing _ := h.lookup_missing
  increasing := h.pairwise_nodeTypes
  listed _ := mem_nodeTypes
  counted := r.length_nodeTypes
  ofCategory _ := among_eq fun _ => h.splits_nodeTypes

end Reflects

/-- Whatever calls there were, all views of the registry show what stands after the changes of
those that did not fail. A further call that fails changes nothing, and this is when one that
registers does. What a type splits into are its category and its name, with a dot between. -/
theorem History.after_shows (calls : List Request) :
    (after calls).registry.Shows (after calls).changes ∧
      (∀ call f, (after calls).registry.serve call = .error f →
        after (calls ++ [call]) = after calls) ∧
      (∀ type candidate replace f,
        (after calls).registry.register type candidate replace = .error f ↔
          NodeType.split type = .error f ∨
            (∃ p, NodeType.split type = .ok p) ∧
              ((after calls).registry.contains type = true ∧ replace = false ∧
                  f = .alreadyRegistered type ∨
                ¬((after calls).registry.contains type = true ∧ replace = false) ∧
                  candidate.registered? = none ∧ f = .notBehavior type)) ∧
      ∀ type category name, NodeType.split type = .ok (category, name) ↔
        type = category ++ "." ++ name ∧ category ≠ "" ∧ .char '.' ∉ category.points ∧
          name ≠ "" := by
  refine ⟨(reflects_after calls).shows, fun call f hf => ?_,
    fun _ _ _ _ => register_eq_error_iff, fun _ _ _ => NodeType.split_eq_ok_iff⟩
  rw [after, List.foldl_concat]
  exact attend_of_error hf

/-- A type that is taken is not given to another behavior unless it may be replaced. -/
theorem History.after_shows_taken :
    let calls : List Request := [.register "flow.noop" (.behavior BuiltIn.noop) false,
      .unregister "flow.noop", .decorate "flow.noop" (.candidate (.behavior BuiltIn.branch)) false]
    let again : Request := .register "flow.noop" (.behavior BuiltIn.noop) false
    Standing (after calls).changes "flow.noop" BuiltIn.branch ∧
      (after calls).registry.get? "flow.noop" = some BuiltIn.branch ∧
      after (calls ++ [again]) = after calls := by
  intro calls again
  obtain ⟨shows, fails, -, -⟩ := after_shows calls
  have hstanding : Standing (after calls).changes "flow.noop" BuiltIn.branch :=
    ⟨[.registered "flow.noop" BuiltIn.noop, .unregistered "flow.noop"], [], rfl,
      fun _ hc => nomatch hc⟩
  have htaken : (after calls).registry.serve again = .error (.alreadyRegistered "flow.noop") := rfl
  exact ⟨hstanding, (shows.found "flow.noop" BuiltIn.branch hstanding).1, fails again _ htaken⟩

end Registry
end NodeWalk
