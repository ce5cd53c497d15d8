import NodeWalk.Proofs.Follows
import NodeWalk.Run.Registry

set_option autoImplicit false

/-!
# Local behaviors

A behavior is local if it depends on nothing but what it is given: its parameters,
its control data and the document, and what these lead to. It cannot tell by what
numbers the cells go, it does not read the log, and it writes to nothing else that
was there before. This is what a behavior can do at all that is handed objects and
has no other way to them.
-/
namespace NodeWalk

instance : Carries Call where
  rename ρ c := ⟨rename ρ c.parameters, rename ρ c.flow, c.access⟩
  Within s c := Within s c.parameters ∧ Within s c.flow
  mono hs h := ⟨Carries.mono hs h.1, Carries.mono hs h.2⟩
  congr hs h := by rw [Carries.congr hs h.1, Carries.congr hs h.2]
  same c := by rw [Carries.same, Carries.same]

instance : Carries Reply where
  rename ρ
    | .plain v => .plain (rename ρ v)
    | .output result next => .output (rename ρ result) (rename ρ next)
  Within s
    | .plain v => Within s v
    | .output result next => Within s result ∧ Within s next
  mono {s t r} hs h := by
    cases r with
    | plain v => exact Carries.mono (α := Value) hs h
    | output result next => exact ⟨Carries.mono hs h.1, Carries.mono hs h.2⟩
  congr {s ρ τ r} hs h := by
    cases r with
    | plain v => exact congrArg Reply.plain (Carries.congr (α := Value) hs h)
    | output result next =>
      exact congrArg₂ Reply.output (Carries.congr hs h.1) (Carries.congr hs h.2)
  same r := by
    cases r with
    | plain v => exact congrArg Reply.plain (Carries.same v)
    | output result next => exact congrArg₂ Reply.output (Carries.same result) (Carries.same next)

instance : Carries Output where
  rename ρ o := ⟨rename ρ o.result, rename ρ o.next⟩
  Within s o := Within s o.result ∧ Within s o.next
  mono hs h := ⟨Carries.mono hs h.1, Carries.mono hs h.2⟩
  congr hs h := by rw [Carries.congr hs h.1, Carries.congr hs h.2]
  same o := by rw [Carries.same, Carries.same]

/-- From mirrored stores, on calls in the scope, the behavior comes to the same. -/
def Behavior.Local (b : Behavior) : Prop :=
  ∀ (ρ : Renaming) (s : Scope) (t t' : Store) (c : Call),
    Linked ρ s t t' → Within s c → Follows ρ s t t' (b c) (b (rename ρ c))

def Registry.Local (r : Registry) : Prop :=
  ∀ type b, r.get? type = some b → b.behave.Local

namespace Reply

variable {ρ : Renaming} {s : Scope} {h h' : Objects} {r : Reply}

theorem kind_rename (hm : Objects.Mirrors ρ s h h') (hr : Within s r) :
    (rename ρ r).kind h' = r.kind h := by
  cases r with
  | plain v => exact hm.kind_rename hr
  | output result next => rfl

theorem entry_rename (ρ : Renaming) (fields : Entries Value) (key : Text) :
    (Entries.get? key (rename ρ fields)).getD .null =
      rename ρ ((Entries.get? key fields).getD .null) := by
  rw [Entries.get?_rename]
  cases Entries.get? key fields <;> rfl

theorem within_entry {fields : Entries Value} (hf : Within s fields) (key : Text) :
    Within s ((Entries.get? key fields).getD .null) := by
  have hw := Entries.within_get? hf key
  cases hg : Entries.get? key fields with
  | none => exact within_null s
  | some v => exact within_some.1 (hg ▸ hw)

theorem rename_eq_null_iff {v : Value} : rename ρ v = .null ↔ v = .null := by
  cases v with
  | ref a => simp
  | scalar a => cases a <;> simp [rename_scalar, rename_scalar_of_not_float]

def successorOf (fields : Entries Value) : Value :=
  if (Entries.get? "nextFlow" fields).getD .null = .null then
    (Entries.get? "next_flow" fields).getD .null
  else (Entries.get? "nextFlow" fields).getD .null

theorem accept_output (h : Objects) (result next : Value) :
    (output result next).accept h = (h.entries? result).map fun es => ⟨es, next⟩ := by
  simp only [accept]
  cases h.entries? result <;> rfl

theorem accept_plain (h : Objects) (v : Value) :
    (plain v).accept h = (h.entries? v).bind fun fields =>
      ((Entries.get? "result" fields).bind h.entries?).map fun es => ⟨es, successorOf fields⟩ := by
  simp only [accept, successorOf]
  cases h.entries? v with
  | none => rfl
  | some fields =>
    simp only [Option.bind_eq_bind, Option.bind_some]
    cases Entries.get? "result" fields with
    | none => rfl
    | some result =>
      simp only [Option.bind_some]
      cases h.entries? result with
      | none => rfl
      | some es =>
        simp only [Option.bind_some, Option.map_some]
        split <;> rfl

theorem successorOf_rename (ρ : Renaming) (fields : Entries Value) :
    successorOf (rename ρ fields) = rename ρ (successorOf fields) := by
  unfold successorOf
  rw [entry_rename, entry_rename]
  simp only [rename_eq_null_iff]
  split <;> rfl

theorem within_successorOf {fields : Entries Value} (hf : Within s fields) :
    Within s (successorOf fields) := by
  unfold successorOf
  split <;> exact within_entry hf _

theorem accept_rename (hm : Objects.Mirrors ρ s h h') (hr : Within s r) :
    (rename ρ r).accept h' = rename ρ (r.accept h) ∧ Within s (r.accept h) := by
  have outputs {o : Option (Entries Value)} {next : Value} (ho : Within s o)
      (hn : Within s next) :
      (rename ρ o).map (fun es => (⟨es, rename ρ next⟩ : Output)) =
        rename ρ (o.map fun es => (⟨es, next⟩ : Output)) ∧
      Within s (o.map fun es => (⟨es, next⟩ : Output)) := by
    cases o with
    | none => exact ⟨rfl, within_none s⟩
    | some es => exact ⟨rfl, within_some.2 ⟨within_some.1 ho, hn⟩⟩
  cases r with
  | output result next =>
    have ho := outputs (hm.within_entries? hr.1) hr.2
    rw [← hm.entries?_rename hr.1] at ho
    rw [accept_output]
    exact (accept_output h' (rename ρ result) (rename ρ next)) ▸ ho
  | plain v =>
    have he : (rename ρ (Reply.plain v)).accept h' = _ := accept_plain h' (rename ρ v)
    rw [he, accept_plain, hm.entries?_rename hr]
    have hf := hm.within_entries? hr
    cases hfields : h.entries? v with
    | none => exact ⟨rfl, within_none s⟩
    | some fields =>
      rw [hfields] at hf
      have hfw : Within s fields := within_some.1 hf
      have hres := Entries.within_get? hfw "result"
      simp only [rename_some, Option.bind_some, Entries.get?_rename, successorOf_rename]
      cases hresult : Entries.get? "result" fields with
      | none => exact ⟨rfl, within_none s⟩
      | some result =>
        rw [hresult] at hres
        have hw : Within s result := within_some.1 hres
        simp only [rename_some, Option.bind_some, hm.entries?_rename hw]
        exact outputs (hm.within_entries? hw) (within_successorOf hfw)

end Reply
end NodeWalk
