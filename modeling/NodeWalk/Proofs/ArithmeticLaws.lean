import NodeWalk.Proofs.NamedSuccessors
import NodeWalk.Proofs.RepeatedSequences

set_option autoImplicit false

/-!
# Laws of the nodes that compute

To double a value, to add it to itself and to multiply it by two come to the same, and so do the two
ways round of a product. A text or an array that is repeated in two parts, with the parts added, is
what it is when it is repeated at once. This holds of values of every kind but floating-point
numbers, for what is put out and for the class of the fault where nothing is.
-/
namespace NodeWalk

namespace Objects

variable {h g : Objects} {a b v : Value} {r : Computed}

theorem Computed.Ends.inside (hr : r.Ends h a b) (hok : r = .ok (v, g)) :
    ∀ x, v = .ref x → x < g.cells.size := by
  rintro x rfl
  cases hr with
  | array given =>
    rw [newArray_eq] at hok
    cases hok
    rw [size_append]
    exact Nat.lt_succ_self _
  | _ => cases hok

theorem content?_kept (hk : h.Kept g) (hv : ∀ x, v = .ref x → x < h.cells.size) :
    g.content? v = h.content? v := by
  cases v with
  | scalar s => cases s <;> rfl
  | ref x => simp only [content?, items?, hk.find?_eq hv]

end Objects

namespace Node.Invocation

/-- The evaluation calls this behavior with these operands and with an object of control data. -/
structure Applies (i : Invocation) (s : Store) (b : Registered) (operands : Entries Value) :
    Prop where
  behavior : i.behavior = b
  operands : ∃ es, s.objects.entries? i.call.parameters = some es ∧
    ∀ e ∈ operands, Entries.get? e.1 es = some e.2
  flow : ∃ es, i.call.HasFlow es s

def Results (i : Invocation) (s : Store) : Result → Prop
  | .ok c => ∃ v next t, i.answer.run s = (.ok ⟨[("out", v)], next⟩, t) ∧
      t.objects.content? v = some c
  | .error k => ∃ f t, i.answer.run s = (.error f, t) ∧ f.toClass = k

variable {i : Invocation} {s : Store} {c : Call} {es : Entries Value} {v w : Value} {r : Result}

theorem Results.unique {r' : Result} (hr : i.Results s r) (hr' : i.Results s r') : r = r' := by
  cases r with
  | ok c =>
    obtain ⟨v, next, t, hrun, hv⟩ := hr
    cases r' with
    | ok d =>
      obtain ⟨w, next', t', hrun', hw⟩ := hr'
      cases hrun.symm.trans hrun'
      exact congrArg Except.ok (Option.some.inj (hv.symm.trans hw))
    | error k =>
      obtain ⟨f, t', hrun', -⟩ := hr'
      cases hrun.symm.trans hrun'
  | error k =>
    obtain ⟨f, t, hrun, hf⟩ := hr
    cases r' with
    | ok d =>
      obtain ⟨w, next, t', hrun', -⟩ := hr'
      cases hrun.symm.trans hrun'
    | error k' =>
      obtain ⟨f', t', hrun', hf'⟩ := hr'
      cases hrun.symm.trans hrun'
      exact congrArg Except.error (hf.symm.trans hf')

theorem run_putOut (hc : c.HasFlow es s) (v : Value) :
    (BuiltIn.putOut c v).run s =
      (.ok (.output (s.objects.newObject [("out", v)]).1 ((Entries.get? "next" es).getD .null)),
        s.withObjects (s.objects.newObject [("out", v)]).2) := by
  unfold BuiltIn.putOut
  rw [run_bind_ok (hc.run_successor "next")]
  rfl

theorem results_of_computed {computed : Objects.Computed}
    (hrun : (i.behavior.behave i.call).run s = match computed with
      | .ok (x, h) => (BuiltIn.putOut i.call x).run (s.withObjects h)
      | .error f => (.error f.settled, s))
    (hc : i.call.HasFlow es s) (hends : computed.Ends s.objects v w) (hr : computed.Has r) :
    i.Results s r := by
  cases r with
  | error k =>
    obtain ⟨f, rfl, hf⟩ := hr
    have hdue : f.toClass.OfOperands := by
      cases hends with
      | fault due => exact due
    dsimp only at hrun
    rw [Fault.settled_of_operands hdue] at hrun
    exact ⟨f, _, by rw [run_answer, hrun], hf⟩
  | ok content =>
    obtain ⟨x, h, rfl, hx⟩ := hr
    have hkeeps : s.Keeps (s.withObjects h) := ⟨hends.kept rfl, rfl⟩
    dsimp only at hrun
    rw [run_putOut (hc.kept hkeeps)] at hrun
    refine ⟨x, (Entries.get? "next" es).getD .null, s.withObjects (h.newObject [("out", x)]).2,
      ?_, ?_⟩
    · rw [run_answer, hrun]
      dsimp only [Store.withObjects]
      rw [Reply.accept, Objects.entries?_newObject]
      rfl
    · dsimp only [Store.withObjects]
      rw [Objects.content?_kept (Objects.kept_newObject _ h) (hends.inside rfl), hx]

theorem results_binary {b : Registered} {operation : Objects → Value → Value → Objects.Computed}
    (hb : b.behave = BuiltIn.binary operation) (hends : ∀ h v w, (operation h v w).Ends h v w)
    (hi : i.Applies s b [("a", v), ("b", w)]) (hr : (operation s.objects v w).Has r) :
    i.Results s r := by
  obtain ⟨hbehavior, ⟨es, hes, hoperands⟩, ⟨_, hflow⟩⟩ := hi
  refine results_of_computed ?_ hflow (hends s.objects v w) hr
  rw [hbehavior, hb, BuiltIn.binary,
    run_bind_ok (Call.run_required hes (hoperands ("a", v) (by simp))),
    run_bind_ok (Call.run_required hes (hoperands ("b", w) (by simp)))]
  exact BuiltIn.run_computed (fun h => operation h v w) i.call s

theorem results_add (hi : i.Applies s BuiltIn.add [("a", v), ("b", w)])
    (hr : (s.objects.add v w).Has r) : i.Results s r :=
  results_binary rfl Objects.ends_add hi hr

theorem results_mul (hi : i.Applies s BuiltIn.mul [("a", v), ("b", w)])
    (hr : (s.objects.mul v w).Has r) : i.Results s r :=
  results_binary rfl Objects.ends_mul hi hr

theorem results_double (hi : i.Applies s BuiltIn.double [("x", v)])
    (hr : (s.objects.double v).Has r) : i.Results s r := by
  obtain ⟨hbehavior, ⟨es, hes, hoperands⟩, ⟨_, hflow⟩⟩ := hi
  refine results_of_computed ?_ hflow (Objects.ends_mul s.objects v (.int 2)) hr
  rw [hbehavior, BuiltIn.double,
    run_bind_ok (Call.run_required hes (hoperands ("x", v) (by simp)))]
  exact BuiltIn.run_computed (fun h => h.double v) i.call s

end Node.Invocation

namespace BuiltIn

open Node Objects

/-- Wherever the sequence is multiplied by the count, this is the result. -/
def Repeats (x : Sequence) (count : Int) (r : Result) : Prop :=
  ∀ (s : Store) (v w : Value) (i : Invocation), s.objects.sequence? v = some x →
    number? w = some (.int count) → i.Applies s mul [("a", v), ("b", w)] → i.Results s r

/-- Wherever values of these contents are added, the last is the result. A fault leaves nothing
to add, and is the result itself. -/
def Adds : Result → Result → Result → Prop
  | .error k, _, r => r = .error k
  | .ok _, .error k, r => r = .error k
  | .ok c, .ok d, r => ∀ (s : Store) (v w : Value) (i : Invocation),
      s.objects.content? v = some c → s.objects.content? w = some d →
      i.Applies s add [("a", v), ("b", w)] → i.Results s r

/-- The sequence is the same, repeated at once or in two parts. -/
structure Distributes (x : Sequence) (m n : Nat) : Prop where
  whole : Repeats x (m + n) (x.times (m + n)).result
  left : Repeats x m (x.times m).result
  right : Repeats x n (x.times n).result
  sum : Adds (x.times m).result (x.times n).result (x.times (m + n)).result

theorem repeats_times (x : Sequence) {n : Nat} (hn : (n : Int) ≤ maxLength) :
    Repeats x n (x.times n).result := by
  intro s v w i hv hw hi
  have hmul : (s.objects.mul v w).Has (x.times n).result := mul_has hv hw hn
  exact Invocation.results_mul hi hmul

theorem adds_times (x : Sequence) (m n : Nat) :
    Adds (x.times m).result (x.times n).result (x.times (m + n)).result := by
  cases hm : (x.times m).result with
  | error k => exact Sequence.result_times_of_le hm (Nat.le_add_right m n)
  | ok c =>
    cases hn : (x.times n).result with
    | error k => exact Sequence.result_times_of_le hn (Nat.le_add_left n m)
    | ok d =>
      intro s v w i hv hw hi
      rw [← Sequence.content_of_result hm, ← sequence?_eq_some_iff] at hv
      rw [← Sequence.content_of_result hn, ← sequence?_eq_some_iff] at hw
      have hadd : (s.objects.add v w).Has (x.times (m + n)).result := add_has hv hw
      exact Invocation.results_add hi hadd

theorem distributes (x : Sequence) {m n : Nat} (hmn : (m + n : Int) ≤ maxLength) :
    Distributes x m n where
  whole := repeats_times x (by rw [Int.natCast_add]; exact hmn)
  left := repeats_times x (by omega)
  right := repeats_times x (by omega)
  sum := adds_times x m n

/-- The nodes that compute agree. To double a value, to add it to itself and to multiply it by two
have one result, which is a value or the fault for the type, but for a sequence that would be longer
twice over than any sequence can be. The two products of two values have one result. A sequence
that is repeated in two parts, with the parts added, is what it is when it is repeated at once,
and where it is too long, so are the parts or their sum. Values of one result compare equal. -/
theorem arithmetic_agrees :
    (∀ (s : Store) (x : Value) (i j k : Invocation), (∀ y, x ≠ .float y) →
      i.Applies s double [("x", x)] → j.Applies s add [("a", x), ("b", x)] →
      k.Applies s mul [("a", x), ("b", .int 2)] →
      ∃ r, i.Results s r ∧ j.Results s r ∧ k.Results s r ∧
        ((∃ c, r = .ok c) ∨ r = .error .type ∨
          ∃ q, s.objects.sequence? x = some q ∧ q.capacity < q.length * 2 ∧
            r = .error q.excess)) ∧
    (∀ (s : Store) (x y : Value) (i j : Invocation), (∀ z, x ≠ .float z) → (∀ z, y ≠ .float z) →
      i.Applies s mul [("a", x), ("b", y)] → j.Applies s mul [("a", y), ("b", x)] →
      ∃ r, i.Results s r ∧ j.Results s r) ∧
    (∀ (x : Sequence) (m n : Nat), (m + n : Int) ≤ maxLength → Distributes x m n) ∧
    ∀ (h : Objects) (v w : Value) (c : Content), h.content? v = some c → h.content? w = some c →
      h.compares .eq v w = .ok true := by
  refine ⟨?_, ?_, fun x m n => distributes x, fun h v w c => compares_of_content?⟩
  · intro s x i j k hx hi hj hk
    obtain ⟨r, hdouble, hadd, hmul, hends⟩ := exists_double_has (h := s.objects) hx
    exact ⟨r, Invocation.results_double hi hdouble, Invocation.results_add hj hadd,
      Invocation.results_mul hk hmul, hends⟩
  · intro s x y i j hx hy hi hj
    obtain ⟨r, hxy, hyx⟩ := exists_mul_has (h := s.objects) hx hy
    exact ⟨r, Invocation.results_mul hi hxy, Invocation.results_mul hj hyx⟩

def rows : Store where
  objects := ⟨#[.object [], .array [.bool true, .text "a"],
    .array [.bool true, .text "a", .bool true, .text "a"],
    .object [("x", .ref 1)], .object [("a", .ref 1), ("b", .ref 1)],
    .object [("a", .ref 1), ("b", .int 2)], .object [("a", .int 2), ("b", .ref 1)],
    .object [("a", .ref 1), ("b", .ref 2)],
    .array [.bool true, .text "a", .bool true, .text "a"]], 1⟩
  root := .null
  log := #[]

def given (b : Registered) (parameters : Addr) : Invocation :=
  ⟨⟨0, "math"⟩, b, ⟨.ref parameters, .ref 0, .full⟩⟩

theorem arithmetic_agrees_rows :
    let row := [.bool true, .text "a"]
    (∀ i ∈ [given double 3, given add 4, given mul 5, given mul 6],
      i.Results rows (.ok (.array (row ++ row)))) ∧
    (given add 7).Results rows (.ok (.array (row ++ row ++ row))) ∧
    rows.objects.compares .eq (.ref 2) (.ref 8) = .ok true := by
  have hflow (b : Registered) (a : Addr) : ∃ es, (given b a).call.HasFlow es rows :=
    ⟨[], 0, rfl, by decide, rfl⟩
  have hone : rows.objects.sequence? (.ref 1) = some (.array [.bool true, .text "a"]) := rfl
  have hnot : ∀ y, Value.ref 1 ≠ .float y := by rintro y ⟨⟩
  have hnot' : ∀ y, Value.int 2 ≠ .float y := by rintro y ⟨⟩
  have hdouble : (given double 3).Applies rows double [("x", .ref 1)] :=
    ⟨rfl, ⟨_, rfl, by decide⟩, hflow _ _⟩
  have hadd : (given add 4).Applies rows add [("a", .ref 1), ("b", .ref 1)] :=
    ⟨rfl, ⟨_, rfl, by decide⟩, hflow _ _⟩
  have hmul : (given mul 5).Applies rows mul [("a", .ref 1), ("b", .int 2)] :=
    ⟨rfl, ⟨_, rfl, by decide⟩, hflow _ _⟩
  have hother : (given mul 6).Applies rows mul [("a", .int 2), ("b", .ref 1)] :=
    ⟨rfl, ⟨_, rfl, by decide⟩, hflow _ _⟩
  have hsum : (given add 7).Applies rows add [("a", .ref 1), ("b", .ref 2)] :=
    ⟨rfl, ⟨_, rfl, by decide⟩, hflow _ _⟩
  obtain ⟨twice, products, parts, equal⟩ := arithmetic_agrees
  have hwhole : (given mul 5).Results rows (.ok (.array [.bool true, .text "a", .bool true,
      .text "a"])) :=
    (parts (.array [.bool true, .text "a"]) 1 1 (by decide)).whole rows _ _ _ hone rfl hmul
  obtain ⟨r, hi, hj, hk, -⟩ := twice rows _ _ _ _ hnot hdouble hadd hmul
  obtain rfl := hk.unique hwhole
  obtain ⟨r', hi', hj'⟩ := products rows _ _ _ _ hnot hnot' hmul hother
  obtain rfl := hi'.unique hwhole
  refine ⟨?_, (parts (.array [.bool true, .text "a"]) 1 2 (by decide)).sum rows _ _ _ rfl rfl hsum,
    equal rows.objects _ _ _ rfl rfl⟩
  intro i hmem
  simp only [List.mem_cons, List.not_mem_nil, or_false] at hmem
  obtain rfl | rfl | rfl | rfl := hmem
  · exact hi
  · exact hj
  · exact hk
  · exact hj'

end BuiltIn
end NodeWalk
