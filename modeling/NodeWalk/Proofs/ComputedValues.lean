import NodeWalk.Value.Arithmetic

set_option autoImplicit false

/-!
# What arithmetic comes to

An operation on two values fails for their kinds, for a range or for want of memory, or it comes
to a scalar or to a new array. The items of a new array are items of the operands.
-/
namespace NodeWalk

def FaultClass.OfOperands : FaultClass → Prop
  | .type | .overflow | .memory => True
  | _ => False

/-- The message of such a fault shows no value, so it can always be written. -/
theorem Fault.settled_of_operands {f : Fault} (hf : f.toClass.OfOperands) : f.settled = f := by
  cases f <;> first | rfl | cases hf

namespace Objects

/-- The ways in which an operation on the two values can end. -/
inductive Computed.Ends (h : Objects) (v w : Value) : Computed → Prop where
  | fault {f : Fault} (due : f.toClass.OfOperands) : Ends h v w (.error f)
  | scalar (s : Scalar) : Ends h v w (.ok (.scalar s, h))
  | number (x : Binary64) : Ends h v w (.ok (.float x, h.freshMark.2))
  | array {items : List Value}
    (given : ∀ x ∈ items, ∃ xs, (h.items? v = some xs ∨ h.items? w = some xs) ∧ x ∈ xs) :
    Ends h v w (.ok (h.newArray items))

variable {h : Objects} {v w : Value}

theorem Computed.Ends.swap {r : Computed} (hr : r.Ends h v w) : r.Ends h w v := by
  cases hr with
  | fault due => exact .fault due
  | scalar s => exact .scalar s
  | number x => exact .number x
  | array given =>
    refine .array fun x hx => ?_
    obtain ⟨xs, hxs, hmem⟩ := given x hx
    exact ⟨xs, hxs.symm, hmem⟩

theorem items?_of_sequence? {items : List Value} (hs : h.sequence? v = some (.array items)) :
    h.items? v = some items := by
  unfold sequence? at hs
  split at hs
  · cases hs
  · obtain ⟨xs, hxs, heq⟩ := Option.map_eq_some_iff.1 hs
    cases heq
    exact hxs

theorem ends_onNumbers (h : Objects) (v w : Value) (op : Operator) (m n : Number) :
    (h.onNumbers op m n).Ends h v w := by
  have convert (x : Number) :
      (∃ y, x.toBinary64 = .ok y) ∨ x.toBinary64 = .error .beyondFloats := by
    unfold Number.toBinary64
    split
    · split
      · exact .inl ⟨_, rfl⟩
      · exact .inr rfl
    · exact .inl ⟨_, rfl⟩
  unfold onNumbers
  split
  · exact .scalar _
  · obtain ⟨x, hx⟩ | hx := convert m
    · obtain ⟨y, hy⟩ | hy := convert n
      · rw [hx, hy]
        exact .number _
      · rw [hx, hy]
        exact .fault trivial
    · rw [hx]
      exact .fault trivial

theorem ends_repeated {seq : Sequence} (hs : h.sequence? v = some seq) (count : Value) :
    (h.repeated seq count).Ends h v count := by
  unfold repeated
  split
  · split
    · exact .fault trivial
    · cases seq with
      | text s =>
        dsimp only
        split
        · exact .fault trivial
        · exact .scalar _
      | array items =>
        dsimp only
        split
        · exact .fault trivial
        · refine .array fun x hx => ⟨items, .inl (items?_of_sequence? hs), ?_⟩
          split at hx
          · cases hx
          · obtain ⟨copied, hcopied, hx⟩ := List.mem_flatten.1 hx
            exact (List.mem_replicate.1 hcopied).2 ▸ hx
  · exact .fault trivial

theorem ends_joined (h : Objects) (v w : Value) : (h.joined v w).Ends h v w := by
  unfold joined
  split
  · split
    · exact .fault trivial
    · exact .scalar _
  · rename_i hvs hws
    split
    · exact .fault trivial
    · refine .array fun x hx => ?_
      obtain hx | hx := List.mem_append.1 hx
      · exact ⟨_, .inl (items?_of_sequence? hvs), hx⟩
      · exact ⟨_, .inr (items?_of_sequence? hws), hx⟩
  · exact .fault trivial
  · exact .fault trivial

theorem ends_add (h : Objects) (v w : Value) : (h.add v w).Ends h v w := by
  unfold add
  split
  · exact ends_onNumbers h v w _ _ _
  · exact ends_joined h v w

theorem ends_sub (h : Objects) (v w : Value) : (h.sub v w).Ends h v w := by
  unfold sub
  split
  · exact ends_onNumbers h v w _ _ _
  · exact .fault trivial

theorem ends_mul (h : Objects) (v w : Value) : (h.mul v w).Ends h v w := by
  unfold mul
  split
  · exact ends_onNumbers h v w _ _ _
  · split
    · rename_i hs
      exact ends_repeated hs w
    · rename_i hs
      exact (ends_repeated hs v).swap
    · exact .fault trivial

end Objects
end NodeWalk
