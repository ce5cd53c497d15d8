import NodeWalk.Proofs.Renaming

set_option autoImplicit false

/-!
# Without marks

A mark tells two objects apart that show the same. No text shows a mark, so what is
shown of an unfolded value or of a fault does not change with the marks in it. Two
faults are alike if they differ in marks only.
-/
namespace NodeWalk

namespace Scalar

variable (f : Nat → Nat)

@[simp] theorem kind_mapMark (a : Scalar) : (a.mapMark f).kind = a.kind := by cases a <;> rfl

@[simp] theorem shown?_mapMark (a : Scalar) : (a.mapMark f).shown? = a.shown? := by
  cases a <;> rfl

@[simp] theorem plain?_mapMark (a : Scalar) : (a.mapMark f).plain? = a.plain? := by
  cases a <;> rfl

theorem mapMark_mapMark (g : Nat → Nat) (a : Scalar) :
    (a.mapMark g).mapMark f = a.mapMark (f ∘ g) := by
  cases a <;> rfl

end Scalar

namespace Unfolding

mutual

def mapMark (f : Nat → Nat) : Unfolding → Unfolding
  | .scalar a => .scalar (a.mapMark f)
  | .array items => .array (mapMarkItems f items)
  | .object entries => .object (mapMarkEntries f entries)
  | .back which up => .back which up

def mapMarkItems (f : Nat → Nat) : List Unfolding → List Unfolding
  | [] => []
  | t :: ts => mapMark f t :: mapMarkItems f ts

def mapMarkEntries (f : Nat → Nat) : List (Text × Unfolding) → List (Text × Unfolding)
  | [] => []
  | (k, t) :: es => (k, mapMark f t) :: mapMarkEntries f es

end

variable (f : Nat → Nat)

theorem mapMarkItems_eq_map (ts : List Unfolding) : mapMarkItems f ts = ts.map (mapMark f) := by
  induction ts with
  | nil => rfl
  | cons t ts ih => rw [mapMarkItems, ih, List.map_cons]

theorem mapMarkEntries_eq_map (es : List (Text × Unfolding)) :
    mapMarkEntries f es = es.map fun e => (e.1, mapMark f e.2) := by
  induction es with
  | nil => rfl
  | cons e es ih => rw [mapMarkEntries, ih, List.map_cons]

@[simp] theorem kind_mapMark (t : Unfolding) : (t.mapMark f).kind = t.kind := by
  cases t <;> simp [mapMark, kind]

mutual

theorem shown?_mapMark : ∀ t : Unfolding, (t.mapMark f).shown? = t.shown?
  | .scalar a => by simp [mapMark, shown?]
  | .array items => by rw [mapMark, shown?, shown?, shownItems?_mapMark]
  | .object entries => by rw [mapMark, shown?, shown?, shownEntries?_mapMark]
  | .back which _ => by cases which <;> rfl

theorem shownItems?_mapMark : ∀ ts : List Unfolding,
    shownItems? (mapMarkItems f ts) = shownItems? ts
  | [] => rfl
  | t :: ts => by rw [mapMarkItems, shownItems?, shownItems?, shown?_mapMark t,
      shownItems?_mapMark ts]

theorem shownEntries?_mapMark : ∀ es : List (Text × Unfolding),
    shownEntries? (mapMarkEntries f es) = shownEntries? es
  | [] => rfl
  | (k, t) :: es => by rw [mapMarkEntries, shownEntries?, shownEntries?, shown?_mapMark t,
      shownEntries?_mapMark es]

end

theorem plain?_mapMark (t : Unfolding) : (t.mapMark f).plain? = t.plain? := by
  cases t with
  | scalar a => simp [mapMark, plain?]
  | _ => exact congrArg (Option.map Text.ofString) (shown?_mapMark f _)

mutual

theorem mapMark_mapMark (g : Nat → Nat) :
    ∀ t : Unfolding, (t.mapMark g).mapMark f = t.mapMark (f ∘ g)
  | .scalar a => by simp [mapMark, Scalar.mapMark_mapMark]
  | .array items => by simp only [mapMark, mapMarkItems_mapMark g items]
  | .object entries => by simp only [mapMark, mapMarkEntries_mapMark g entries]
  | .back _ _ => rfl

theorem mapMarkItems_mapMark (g : Nat → Nat) : ∀ ts : List Unfolding,
    mapMarkItems f (mapMarkItems g ts) = mapMarkItems (f ∘ g) ts
  | [] => rfl
  | t :: ts => by simp only [mapMarkItems, mapMark_mapMark g t, mapMarkItems_mapMark g ts]

theorem mapMarkEntries_mapMark (g : Nat → Nat) : ∀ es : List (Text × Unfolding),
    mapMarkEntries f (mapMarkEntries g es) = mapMarkEntries (f ∘ g) es
  | [] => rfl
  | (k, t) :: es => by
    simp only [mapMarkEntries, mapMark_mapMark g t, mapMarkEntries_mapMark g es]

end

mutual

theorem mapMark_id : ∀ t : Unfolding, t.mapMark id = t
  | .scalar a => by cases a <;> rfl
  | .array items => by rw [mapMark, mapMarkItems_id items]
  | .object entries => by rw [mapMark, mapMarkEntries_id entries]
  | .back _ _ => rfl

theorem mapMarkItems_id : ∀ ts : List Unfolding, mapMarkItems id ts = ts
  | [] => rfl
  | t :: ts => by rw [mapMarkItems, mapMark_id t, mapMarkItems_id ts]

theorem mapMarkEntries_id : ∀ es : List (Text × Unfolding), mapMarkEntries id es = es
  | [] => rfl
  | (k, t) :: es => by rw [mapMarkEntries, mapMark_id t, mapMarkEntries_id es]

end

def unmarked (t : Unfolding) : Unfolding := t.mapMark fun _ => 0

theorem unmarked_mapMark (t : Unfolding) : (t.mapMark f).unmarked = t.unmarked :=
  mapMark_mapMark _ f t

end Unfolding

namespace GraphFault

def unmarked : GraphFault → GraphFault
  | .referenceIndex got => .referenceIndex got.unmarked
  | .inType type fault => .inType type.unmarked fault.unmarked
  | .atNode index fault => .atNode index fault.unmarked
  | f => f

theorem text?_unmarked (f : GraphFault) : f.unmarked.text? = f.text? := by
  induction f with
  | referenceIndex got => simp only [unmarked, text?, Unfolding.unmarked, Unfolding.shown?_mapMark]
  | inType type f ih =>
    simp only [unmarked, text?, Unfolding.unmarked, Unfolding.plain?_mapMark, ih]
  | atNode index f ih => simp only [unmarked, text?, ih]
  | _ => rfl

theorem violations_unmarked (f : GraphFault) : f.unmarked.violations = f.violations := by
  induction f with
  | inType type f ih => simpa [unmarked, violations] using ih
  | atNode index f ih => simpa [unmarked, violations] using ih
  | _ => rfl

end GraphFault

namespace Fault

def unmarked : Fault → Fault
  | .unresolved node socket parameter =>
    .unresolved (node.mapMark fun _ => 0) (socket.mapMark fun _ => 0) parameter
  | .invalidIndex index nodes => .invalidIndex index.unmarked nodes
  | .stepLimit limit => .stepLimit (limit.mapMark fun _ => 0)
  | .graph f => .graph f.unmarked
  | .unknownComparison op => .unknownComparison op.unmarked
  | .negativeLimit limit => .negativeLimit (limit.mapMark fun _ => 0)
  | f => f

def Alike (f f' : Fault) : Prop := f'.unmarked = f.unmarked

theorem Alike.refl (f : Fault) : f.Alike f := rfl

theorem Alike.symm {f f' : Fault} (h : f.Alike f') : f'.Alike f := Eq.symm h

theorem Alike.trans {f f' f'' : Fault} (h : f.Alike f') (h' : f'.Alike f'') : f.Alike f'' :=
  Eq.trans h' h

theorem text?_unmarked (f : Fault) : f.unmarked.text? = f.text? := by
  cases f with
  | unresolved node socket parameter => simp [unmarked, text?]
  | invalidIndex index nodes =>
    simp only [unmarked, text?, Unfolding.unmarked, Unfolding.shown?_mapMark]
  | stepLimit limit => simp [unmarked, text?]
  | graph f => exact f.text?_unmarked
  | unknownComparison op =>
    simp only [unmarked, text?, Unfolding.unmarked, Unfolding.plain?_mapMark]
  | negativeLimit limit => simp [unmarked, text?]
  | _ => rfl

theorem Alike.text? {f f' : Fault} (h : f.Alike f') : f'.text? = f.text? := by
  rw [← text?_unmarked f', h, text?_unmarked]

theorem Alike.message {f f' : Fault} (h : f.Alike f') : f'.message = f.message := by
  rw [Fault.message, h.text?, Fault.message]

theorem Alike.settled {f f' : Fault} (h : f.Alike f') : f.settled.Alike f'.settled := by
  unfold Fault.settled
  rw [h.text?]
  split
  · exact h
  · rfl

theorem Alike.name? {f f' : Fault} (h : f.Alike f') : f'.name? = f.name? := by
  have hn (f : Fault) : f.unmarked.name? = f.name? := by cases f <;> rfl
  rw [← hn f', h, hn f]

theorem Alike.violations {f f' : Fault} (h : f.Alike f') : f'.violations = f.violations := by
  have hv (f : Fault) : f.unmarked.violations = f.violations := by
    cases f with
    | graph f => exact f.violations_unmarked
    | _ => rfl
  rw [← hv f', h, hv f]

end Fault

end NodeWalk
