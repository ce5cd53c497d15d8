import NodeWalk.Proofs.LocalBehavior
import NodeWalk.Value.Arithmetic

set_option autoImplicit false

/-!
# Arithmetic on mirrored values

An operation leaves the objects as they are, or it adds an array, or it takes a new
mark for a number. The items of a new array are those of the operands, not copies.
-/
namespace NodeWalk

def Number.mapMark (f : Nat → Nat) : Number → Number
  | .int n => .int n
  | .float x => .float { x with mark := f x.mark }

namespace Objects

inductive Computes (ρ : Renaming) (s : Scope) (h h' : Objects) : Computed → Computed → Prop where
  | fault {f f' : Fault} (alike : f.Alike f') : Computes ρ s h h' (.error f) (.error f')
  | value {v : Value} (within : Within s v) :
    Computes ρ s h h' (.ok (v, h)) (.ok (rename ρ v, h'))
  | array {items : List Value} (within : Within s items) :
    Computes ρ s h h' (.ok (h.newArray items)) (.ok (h'.newArray (rename ρ items)))
  | number (x : Float) :
    Computes ρ s h h' (.ok (.float (.ofFloat x h.nextMark), h.freshMark.2))
      (.ok (.float (.ofFloat x h'.nextMark), h'.freshMark.2))

namespace Mirrors

variable {ρ : Renaming} {s : Scope} {h h' : Objects} {v w : Value}

theorem number?_rename (ρ : Renaming) (v : Value) :
    number? (rename ρ v) = (number? v).map (Number.mapMark ρ.mark) := by
  cases v with
  | ref a => rfl
  | scalar a => cases a <;> rfl

theorem toBinary64_mapMark (f : Nat → Nat) (x : Number) :
    (∃ y, x.toBinary64 = .ok y ∧ ∃ m, (x.mapMark f).toBinary64 = .ok { y with mark := m }) ∨
      x.toBinary64 = .error .beyondFloats ∧ (x.mapMark f).toBinary64 = .error .beyondFloats := by
  cases x with
  | float x => exact .inl ⟨x, rfl, f x.mark, rfl⟩
  | int n =>
    have hn : (Number.int n).mapMark f = .int n := rfl
    rw [hn]
    dsimp only [Number.toBinary64]
    cases Binary64.ofInt? n with
    | none => exact .inr ⟨rfl, rfl⟩
    | some y => exact .inl ⟨y, rfl, y.mark, rfl⟩

theorem onNumbers_computes (ρ : Renaming) (s : Scope) (h h' : Objects) (op : Operator)
    (f : Nat → Nat) (x y : Number) :
    Computes ρ s h h' (h.onNumbers op x y) (h'.onNumbers op (x.mapMark f) (y.mapMark f)) := by
  have floats (hx : ∀ m n, ¬ (x = .int m ∧ y = .int n)) :
      Computes ρ s h h' (h.onNumbers op x y) (h'.onNumbers op (x.mapMark f) (y.mapMark f)) := by
    have hopen {g : Objects} {x y : Number} (hx : ∀ m n, ¬ (x = .int m ∧ y = .int n)) :
        g.onNumbers op x y = x.toBinary64 >>= fun a => y.toBinary64 >>= fun b =>
          .ok (.float (op.onFloats a b g.nextMark), g.freshMark.2) := by
      cases x with
      | float x => rfl
      | int m =>
        cases y with
        | float y => rfl
        | int n => exact absurd ⟨rfl, rfl⟩ (hx m n)
    have hx' (m n : Int) : ¬ (x.mapMark f = .int m ∧ y.mapMark f = .int n) := by
      cases x with
      | float x => exact fun hc => nomatch hc.1
      | int k =>
        cases y with
        | float y => exact fun hc => nomatch hc.2
        | int l => exact absurd ⟨rfl, rfl⟩ (hx k l)
    rw [hopen hx, hopen hx']
    obtain ⟨a, ha, m, ha'⟩ | ⟨ha, ha'⟩ := toBinary64_mapMark f x
    · obtain ⟨b, hb, n, hb'⟩ | ⟨hb, hb'⟩ := toBinary64_mapMark f y
      · rw [ha, ha', hb, hb']
        cases op
        · exact .number (a.toFloat + b.toFloat)
        · exact .number (a.toFloat - b.toFloat)
        · exact .number (a.toFloat * b.toFloat)
      · rw [ha, ha', hb, hb']
        exact .fault (.refl _)
    · rw [ha, ha']
      exact .fault (.refl _)
  cases x with
  | float x => exact floats (by simp)
  | int m =>
    cases y with
    | float y => exact floats (by simp)
    | int n => exact .value (within_int s _)

def renamed (ρ : Renaming) : Sequence → Sequence
  | .text x => .text x
  | .array items => .array (rename ρ items)

theorem sequence?_rename (hm : Mirrors ρ s h h') (hv : Within s v) :
    h'.sequence? (rename ρ v) = (h.sequence? v).map (renamed ρ) := by
  have harray (hi : h.sequence? v = (h.items? v).map .array)
      (hi' : h'.sequence? (rename ρ v) = (h'.items? (rename ρ v)).map .array) :
      h'.sequence? (rename ρ v) = (h.sequence? v).map (renamed ρ) := by
    rw [hi, hi', hm.items?_rename hv]
    cases h.items? v <;> rfl
  cases v with
  | ref a => exact harray rfl rfl
  | scalar a =>
    cases a with
    | text x => rfl
    | _ => exact harray rfl rfl

theorem within_sequence? (hm : Mirrors ρ s h h') (hv : Within s v) {items : List Value}
    (hs : h.sequence? v = some (.array items)) : Within s items := by
  have hi := hm.within_items? hv
  have hitems : h.items? v = some items := by
    cases v with
    | ref a =>
      obtain ⟨vs, hvs, he⟩ := Option.map_eq_some_iff.1 hs
      cases he
      exact hvs
    | scalar a => cases a <;> cases hs
  exact within_some.1 (hitems ▸ hi)

theorem within_flatten_replicate {items : List Value} (hi : Within s items) (n : Nat) :
    Within s (List.replicate n items).flatten := by
  intro w hw
  obtain ⟨l, hl, hwl⟩ := List.mem_flatten.1 hw
  exact hi w ((List.mem_replicate.1 hl).2 ▸ hwl)

theorem repeated_computes (hm : Mirrors ρ s h h') {q : Sequence}
    (hq : ∀ items, q = .array items → Within s items) (hv : Within s v) :
    Computes ρ s h h' (h.repeated q v) (h'.repeated (renamed ρ q) (rename ρ v)) := by
  unfold repeated
  rw [number?_rename, hm.kind_rename hv]
  cases number? v with
  | none => exact .fault (.refl _)
  | some x =>
    cases x with
    | float x => exact .fault (.refl _)
    | int n =>
      simp only [Option.map_some, Number.mapMark]
      split
      · exact .fault (.refl _)
      · cases q with
        | text x =>
          simp only [renamed]
          split
          · exact .fault (.refl _)
          · exact .value (within_text s _)
        | array items =>
          have hi := hq items rfl
          simp only [renamed, length_rename]
          split
          · exact .fault (.refl _)
          · cases items with
            | nil => exact .array (within_nil s)
            | cons w ws =>
              have hrep : Computes ρ s h h' _ _ := .array (within_flatten_replicate hi n.toNat)
              simpa [rename_list, List.map_flatten, List.map_replicate] using hrep

theorem joined_computes (hm : Mirrors ρ s h h') (hv : Within s v) (hw : Within s w) :
    Computes ρ s h h' (h.joined v w) (h'.joined (rename ρ v) (rename ρ w)) := by
  unfold joined
  rw [hm.sequence?_rename hv, hm.sequence?_rename hw, hm.kind_rename hv, hm.kind_rename hw]
  cases hx : h.sequence? v with
  | none => exact .fault (.refl _)
  | some x =>
    cases hy : h.sequence? w with
    | none => cases x <;> exact .fault (.refl _)
    | some y =>
      cases x with
      | text x =>
        cases y with
        | text y =>
          dsimp only [Option.map_some, renamed]
          split
          · exact .fault (.refl _)
          · exact .value (within_text s _)
        | array ws => exact .fault (.refl _)
      | array vs =>
        cases y with
        | text y => exact .fault (.refl _)
        | array ws =>
          have hboth := within_append.2 ⟨hm.within_sequence? hv hx, hm.within_sequence? hw hy⟩
          have hc : Computes ρ s h h' _ _ := .array hboth
          rw [rename_append] at hc
          simp only [Option.map_some, renamed, length_rename]
          split
          · exact .fault (.refl _)
          · exact hc

theorem add_computes (hm : Mirrors ρ s h h') (hv : Within s v) (hw : Within s w) :
    Computes ρ s h h' (h.add v w) (h'.add (rename ρ v) (rename ρ w)) := by
  unfold add
  rw [number?_rename, number?_rename]
  cases number? v with
  | none => exact hm.joined_computes hv hw
  | some x =>
    cases number? w with
    | none => exact hm.joined_computes hv hw
    | some y => exact onNumbers_computes ρ s h h' .add ρ.mark x y

theorem sub_computes (hm : Mirrors ρ s h h') (hv : Within s v) (hw : Within s w) :
    Computes ρ s h h' (h.sub v w) (h'.sub (rename ρ v) (rename ρ w)) := by
  unfold sub
  rw [number?_rename, number?_rename, hm.kind_rename hv, hm.kind_rename hw]
  cases number? v with
  | none => exact .fault (.refl _)
  | some x =>
    cases number? w with
    | none => exact .fault (.refl _)
    | some y => exact onNumbers_computes ρ s h h' .sub ρ.mark x y

theorem sequences_computes (hm : Mirrors ρ s h h') (hv : Within s v) (hw : Within s w) :
    Computes ρ s h h'
      (match h.sequence? v, h.sequence? w with
        | some q, _ => h.repeated q w
        | none, some q => h.repeated q v
        | none, none => .error (.operands .mul (h.kind v) (h.kind w)))
      (match h'.sequence? (rename ρ v), h'.sequence? (rename ρ w) with
        | some q, _ => h'.repeated q (rename ρ w)
        | none, some q => h'.repeated q (rename ρ v)
        | none, none => .error (.operands .mul (h'.kind (rename ρ v)) (h'.kind (rename ρ w)))) := by
  rw [hm.sequence?_rename hv, hm.sequence?_rename hw, hm.kind_rename hv, hm.kind_rename hw]
  cases hx : h.sequence? v with
  | some q =>
    refine hm.repeated_computes (fun items hq => ?_) hw
    rw [hq] at hx
    exact hm.within_sequence? hv hx
  | none =>
    cases hy : h.sequence? w with
    | none => exact .fault (.refl _)
    | some q =>
      refine hm.repeated_computes (fun items hq => ?_) hv
      rw [hq] at hy
      exact hm.within_sequence? hw hy

theorem mul_computes (hm : Mirrors ρ s h h') (hv : Within s v) (hw : Within s w) :
    Computes ρ s h h' (h.mul v w) (h'.mul (rename ρ v) (rename ρ w)) := by
  unfold mul
  rw [number?_rename, number?_rename]
  cases number? v with
  | none => exact hm.sequences_computes hv hw
  | some x =>
    cases number? w with
    | none => exact hm.sequences_computes hv hw
    | some y => exact onNumbers_computes ρ s h h' .mul ρ.mark x y

end Mirrors
end Objects

def StoreM.settle (r : Objects.Computed) : StoreM Value := do
  let (v, h) ← ofExcept r
  setObjects h
  return v

theorem Follows.settle {ρ : Renaming} {s : Scope} {t t' : Store} (hl : Linked ρ s t t')
    {r r' : Objects.Computed} (hc : Objects.Computes ρ s t.objects t'.objects r r') :
    Follows ρ s t t' (StoreM.settle r) (StoreM.settle r') := by
  cases hc with
  | fault hf => exact of_matches rfl rfl hl (.refl ρ s t) hf.settled
  | value hv => exact of_matches rfl rfl hl (.refl ρ s t) ⟨hv, rfl⟩
  | array hitems => exact .of_run rfl rfl (.newArray hl hitems)
  | number x =>
    have hm := hl.freshMark
    have hagrees : (ρ.remarked t.objects.nextMark t'.objects.nextMark).Agrees ρ s :=
      ⟨fun _ _ => rfl, fun m hmark => if_pos (hl.mark m hmark)⟩
    refine of_matches rfl rfl (hl.withObjects hm (s.le_marked _) hagrees)
      ⟨⟨s.le_marked _, fun _ ha hn => absurd ha hn, fun _ _ _ => rfl, Nat.le_refl _,
        Nat.le_succ _⟩, hagrees⟩ ?_
    have hfloat (m : Nat) : Binary64.ofFloat x m =
        if x.isNaN = true then ⟨0x7FF8000000000000, m⟩ else ⟨x.toBits, 0⟩ := rfl
    by_cases hx : x.isNaN = true
    · refine ⟨?_, ?_⟩
      · rintro m ⟨y, hy, rfl⟩
        rw [hfloat, if_pos hx] at hy
        cases hy
        exact .inr rfl
      · rw [hfloat, hfloat, if_pos hx, if_pos hx, rename_scalar, rename_float]
        simp [Renaming.remarked]
    · refine ⟨?_, ?_⟩
      · rintro m ⟨y, hy, rfl⟩
        rw [hfloat, if_neg hx] at hy
        cases hy
        exact .inl hl.zero
      · rw [hfloat, hfloat, if_neg hx, if_neg hx, rename_scalar, rename_float]
        exact congrArg (fun m => Value.float ⟨x.toBits, m⟩) hm.imageZero.symm

end NodeWalk
