import NodeWalk.Entries
import NodeWalk.Value.Scalar

set_option autoImplicit false

/-!
# JSON trees

Finite documents: scalars, arrays, and objects whose entries keep their order.
-/
namespace NodeWalk

inductive Json where
  | scalar (s : Scalar)
  | array (items : List Json)
  | object (entries : List (Text × Json))

namespace Json

instance : Inhabited Json := ⟨.scalar .null⟩

abbrev null : Json := .scalar .null

abbrev bool (b : Bool) : Json := .scalar (.bool b)

abbrev int (n : Int) : Json := .scalar (.int n)

abbrev text (s : Text) : Json := .scalar (.text s)

mutual

def decEq : (j k : Json) → Decidable (j = k)
  | .scalar a, .scalar b => decidable_of_iff (a = b) ⟨congrArg _, Json.scalar.inj⟩
  | .array items, .array others =>
    @decidable_of_iff _ (items = others) ⟨congrArg _, Json.array.inj⟩ (decEqItems items others)
  | .object entries, .object others =>
    @decidable_of_iff _ (entries = others) ⟨congrArg _, Json.object.inj⟩
      (decEqEntries entries others)
  | .scalar _, .array _ | .scalar _, .object _ | .array _, .scalar _ | .array _, .object _
  | .object _, .scalar _ | .object _, .array _ => isFalse nofun

def decEqItems : (items others : List Json) → Decidable (items = others)
  | [], [] => isTrue rfl
  | [], _ :: _ | _ :: _, [] => isFalse nofun
  | j :: js, k :: ks =>
    @decidable_of_iff _ (j = k ∧ js = ks) List.cons_eq_cons.symm
      (@instDecidableAnd _ _ (decEq j k) (decEqItems js ks))

def decEqEntries : (entries others : List (Text × Json)) → Decidable (entries = others)
  | [], [] => isTrue rfl
  | [], _ :: _ | _ :: _, [] => isFalse nofun
  | (a, j) :: es, (b, k) :: fs =>
    @decidable_of_iff _ ((a = b ∧ j = k) ∧ es = fs)
      (by rw [List.cons_eq_cons, Prod.mk.injEq])
      (@instDecidableAnd _ _ (@instDecidableAnd _ _ (instDecidableEqText a b) (decEq j k))
        (decEqEntries es fs))

end

instance : DecidableEq Json := decEq

/-- What holds of scalars, and of containers with the values in them, holds of all trees. -/
@[elab_as_elim]
theorem induct {P : Json → Prop} (scalar : ∀ s, P (.scalar s))
    (array : ∀ items, (∀ j ∈ items, P j) → P (.array items))
    (object : ∀ entries, (∀ e ∈ entries, P e.2) → P (.object entries)) : (j : Json) → P j
  | .scalar s => scalar s
  | .array items => array items fun j _ => induct scalar array object j
  | .object entries => object entries fun e _ => induct scalar array object e.2
termination_by j => sizeOf j
decreasing_by
  · have hlt := List.sizeOf_lt_of_mem ‹j ∈ items›
    simp_wf
    omega
  · obtain ⟨k, j⟩ := e
    have hlt := List.sizeOf_lt_of_mem ‹(k, j) ∈ entries›
    simp only [Prod.mk.sizeOf_spec] at hlt
    simp_wf
    omega

end Json
end NodeWalk
