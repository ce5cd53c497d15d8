import NodeWalk.Run.Interpreter

set_option autoImplicit false

/-!
# Running actions

What each action of a store and of a session comes to when it is run. An action
that fails leaves the state it had reached, so every equation names that state
as well as the result.
-/
namespace NodeWalk

theorem Fault.settled_of_text {f : Fault} (h : f.text?.isSome) : f.settled = f := by
  simp [settled, h]

section Results

variable {ε α β : Type} {x : Except ε α} {k : α → Except ε β}

/-- What has a result in two parts has one in each. -/
theorem bind_ok_iff {b : β} : x >>= k = .ok b ↔ ∃ a, x = .ok a ∧ k a = .ok b := by
  cases x with
  | error e => simp [bind, Except.bind]
  | ok a => simp [bind, Except.bind]

/-- What fails in two parts fails in the first of them or in the second. -/
theorem bind_error_iff {e : ε} :
    x >>= k = .error e ↔ x = .error e ∨ ∃ a, x = .ok a ∧ k a = .error e := by
  cases x with
  | error e => simp [bind, Except.bind]
  | ok a => simp [bind, Except.bind]

theorem map_ok_iff {f : α → β} {b : β} : x.map f = .ok b ↔ ∃ a, x = .ok a ∧ f a = b := by
  cases x <;> simp [Except.map]

end Results

section Actions

variable {σ α β : Type}

theorem run_bind (m : ExceptT Fault (StateM σ) α) (k : α → ExceptT Fault (StateM σ) β) (s : σ) :
    (m >>= k).run s = match m.run s with
      | (.ok a, t) => (k a).run t
      | (.error f, t) => (.error f, t) := by
  unfold ExceptT.run
  simp only [bind, ExceptT.bind, ExceptT.mk, StateT.bind, ExceptT.bindCont]
  cases m s with
  | mk result t => cases result <;> rfl

theorem run_bind_ok {m : ExceptT Fault (StateM σ) α} {k : α → ExceptT Fault (StateM σ) β}
    {s t : σ} {a : α} (h : m.run s = (.ok a, t)) : (m >>= k).run s = (k a).run t := by
  rw [run_bind, h]

theorem run_bind_error {m : ExceptT Fault (StateM σ) α} {k : α → ExceptT Fault (StateM σ) β}
    {s t : σ} {f : Fault} (h : m.run s = (.error f, t)) : (m >>= k).run s = (.error f, t) := by
  rw [run_bind, h]

theorem ok_of_toOption {r : Except Fault α} {a : α} (h : r.toOption = some a) : r = .ok a := by
  cases r with
  | error f => cases h
  | ok b => exact congrArg Except.ok (Option.some.inj h)

theorem run_eq_of_result {m : ExceptT Fault (StateM σ) α} {s : σ} {r : Except Fault α}
    (h : (m.run s).1 = r) : m.run s = (r, (m.run s).2) := Prod.ext h rfl

theorem ok_of_bind {m : ExceptT Fault (StateM σ) α} {k : α → ExceptT Fault (StateM σ) β}
    {s t : σ} {b : β} (h : (m >>= k).run s = (.ok b, t)) :
    ∃ a u, m.run s = (.ok a, u) ∧ (k a).run u = (.ok b, t) := by
  rw [run_bind] at h
  cases hm : m.run s with
  | mk result u =>
    rw [hm] at h
    cases result with
    | error f => cases h
    | ok a => exact ⟨a, u, rfl, h⟩

theorem error_of_bind {m : ExceptT Fault (StateM σ) α} {k : α → ExceptT Fault (StateM σ) β}
    {s t : σ} {f : Fault} (h : (m >>= k).run s = (.error f, t)) :
    m.run s = (.error f, t) ∨ ∃ a u, m.run s = (.ok a, u) ∧ (k a).run u = (.error f, t) := by
  rw [run_bind] at h
  cases hm : m.run s with
  | mk result u =>
    rw [hm] at h
    cases result with
    | error g =>
      cases h
      exact .inl rfl
    | ok a => exact .inr ⟨a, u, rfl, h⟩

theorem run_tryCatch (m : ExceptT Fault (StateM σ) α)
    (handle : Fault → ExceptT Fault (StateM σ) α) (s : σ) :
    (tryCatch m handle).run s = match m.run s with
      | (.ok a, t) => (.ok a, t)
      | (.error f, t) => (handle f).run t := by
  unfold ExceptT.run
  simp only [tryCatch, tryCatchThe, MonadExceptOf.tryCatch, ExceptT.tryCatch, ExceptT.mk, bind,
    StateT.bind]
  cases m s with
  | mk result t => cases result <;> rfl

/-- Where each fault is thrown again, what comes of the action comes of it at once. -/
theorem ok_of_rethrown {m : ExceptT Fault (StateM σ) α}
    {note : Fault → ExceptT Fault (StateM σ) Unit}
    {s t : σ} {a : α} (h : (tryCatch m fun f => do note f; throw f).run s = (.ok a, t)) :
    m.run s = (.ok a, t) := by
  rw [run_tryCatch] at h
  cases hm : m.run s with
  | mk result u =>
    rw [hm] at h
    cases result with
    | ok b => exact h
    | error f =>
      obtain ⟨_, _, -, hthrow⟩ := ok_of_bind h
      cases hthrow

end Actions

theorem Objects.plain?_scalar (h : Objects) (a : Scalar) : h.plain? (.scalar a) = a.plain? := by
  simp [plain?, unfold, unfoldIn, Unfolding.plain?]

def Store.withObjects (t : Store) (h : Objects) : Store := { t with objects := h }

namespace StoreM

variable {α : Type}

theorem run_report (n : Notice) (s : Store) :
    (report n).run s = (.ok (), { s with log := s.log.push n }) := rfl

theorem run_get (s : Store) : (MonadState.get : StoreM Store).run s = (.ok s, s) := rfl

theorem run_objects (s : Store) : objects.run s = (.ok s.objects, s) := rfl

theorem run_setObjects (h : Objects) (s : Store) :
    (setObjects h).run s = (.ok (), { s with objects := h }) := rfl

theorem run_extend (f : Objects → α × Objects) (s : Store) :
    (extend f).run s = (.ok (f s.objects).1, { s with objects := (f s.objects).2 }) := rfl

theorem run_ofExcept_ok (a : α) (s : Store) : (ofExcept (.ok a)).run s = (.ok a, s) := rfl

theorem run_ofExcept_error (f : Fault) (s : Store) :
    (ofExcept (.error f) : StoreM α).run s = (.error f.settled, s) := rfl

theorem run_shown (v : Value) (s : Store) :
    (shown v).run s = match s.objects.shown? v with
      | some text => (.ok text, s)
      | none => (.error Fault.integerTooLong.settled, s) := by
  unfold shown
  rw [run_bind_ok (run_objects s)]
  cases s.objects.shown? v <;> rfl

theorem run_plain (v : Value) (s : Store) :
    (plain v).run s = match s.objects.plain? v with
      | some text => (.ok text, s)
      | none => (.error Fault.integerTooLong.settled, s) := by
  unfold plain
  rw [run_bind_ok (run_objects s)]
  cases s.objects.plain? v <;> rfl

end StoreM

theorem Call.run_required {c : Call} {s : Store} {es : Entries Value} {key : Text} {v : Value}
    (hes : s.objects.entries? c.parameters = some es) (hv : Entries.get? key es = some v) :
    (c.required key).run s = (.ok v, s) := by
  unfold Call.required
  rw [run_bind_ok (StoreM.run_objects s), hes]
  dsimp only
  rw [hv]
  rfl

namespace SessionM

variable {α : Type}

theorem run_onStore (m : StoreM α) (s : Session) :
    (onStore m).run s = ((m.run s.store).1, ⟨(m.run s.store).2, s.record⟩) := rfl

theorem run_onRecord (f : Record → Record) (s : Session) :
    (onRecord f).run s = (.ok (), { s with record := f s.record }) := rfl

end SessionM
end NodeWalk
