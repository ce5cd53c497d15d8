import Mathlib.Data.List.Perm.Subperm
import NodeWalk.Proofs.AlikeTurns
import NodeWalk.Proofs.CeilingFaults
import NodeWalk.Proofs.NamedSuccessors

set_option autoImplicit false

/-!
# Forward graphs

Where the control data of each node name later nodes only, a run climbs. The index that is next
is above all that were evaluated, so no node is evaluated twice and the run is over after as many
evaluations as there are nodes. A ceiling beyond that number is never reached.
-/
namespace NodeWalk

namespace Flow

def entriesIn (h : Objects) : Flow → Except Fault (Entries Value)
  | .entries es => .ok es
  | .value v => entriesOf h v

def contents? (h : Objects) : Flow → Option (Entries Value)
  | .entries es => some es
  | .value v => h.entries? v

def Reads (h : Objects) : Flow → Addr → Prop
  | .entries _, _ => False
  | .value v, a => v = .ref a ∨ ∃ items, h.items? v = some items ∧ .ref a ∈ items

end Flow

/-- What is read for the control data of the node is there, and is in `g` as it is in `h`. -/
def Node.Intact (h g : Objects) (n : Node) : Prop :=
  ∀ a, n.flow.Reads h a → a < g.cells.size ∧ g.cell a = h.cell a

/-- Under the keys of a successor the node at position `k` names no index but later ones. Control
data put together by hand can be an object of the caller's that is written to in between; they
have to lie apart from the document then. -/
structure Node.Forward (h : Objects) (document : Scope) (k : Nat) (n : Node) : Prop where
  later : ∀ es, n.flow.entriesIn h = .ok es → ∀ key ∈ successorKeys, ∀ m : Int,
    Entries.get? key es = some (.int m) → (k : Int) < m
  apart : ∀ a, n.flow.Reads h a → a ∉ document.cells

def Node.AllForward (h : Objects) (document : Scope) (nodes : List Node) : Prop :=
  ∀ (k : Nat) (n : Node), nodes[k]? = some n → n.Forward h document k

section Intact

variable {h g g' : Objects} {n : Node} {v : Value} {es : Entries Value}

theorem parts_congr (hv : ∀ a, v = .ref a → g.cell a = h.cell a) (k : Nat) :
    entriesOf.parts g k v = entriesOf.parts h k v := by
  cases v with
  | scalar s => rfl
  | ref a => simp only [entriesOf.parts, Objects.find?, hv a rfl]

theorem pairsFrom_congr {items : List Value} {ps : List (Text × Value)}
    (hitems : ∀ a, .ref a ∈ items → g.cell a = h.cell a) {k : Nat}
    (hg : entriesOf.pairsFrom g k items = .ok ps) : entriesOf.pairsFrom h k items = .ok ps := by
  induction items generalizing k ps with
  | nil => exact hg
  | cons v vs ih =>
    have hv : ∀ a, v = .ref a → g.cell a = h.cell a :=
      fun a ha => hitems a (ha ▸ List.mem_cons_self)
    have hvs : ∀ a, .ref a ∈ vs → g.cell a = h.cell a :=
      fun a ha => hitems a (List.mem_cons_of_mem v ha)
    unfold entriesOf.pairsFrom at hg ⊢
    rw [parts_congr hv] at hg
    obtain ⟨ws, hws, hrest⟩ := bind_ok_iff.1 hg
    refine bind_ok_iff.2 ⟨ws, hws, ?_⟩
    split at hrest
    · split at hrest
      · obtain ⟨qs, hqs, hpair⟩ := bind_ok_iff.1 hrest
        exact bind_ok_iff.2 ⟨qs, ih hvs hqs, hpair⟩
      · cases hrest
      · obtain ⟨qs, hqs, hpair⟩ := bind_ok_iff.1 hrest
        exact bind_ok_iff.2 ⟨qs, ih hvs hqs, hpair⟩
    · cases hrest

theorem entriesOf_congr (hv : ∀ a, (Flow.value v).Reads h a → g.cell a = h.cell a)
    (hg : entriesOf g v = .ok es) : entriesOf h v = .ok es := by
  cases v with
  | scalar s => cases s <;> exact hg
  | ref b =>
    have hcell : g.cell b = h.cell b := hv b (.inl rfl)
    unfold entriesOf at hg ⊢
    simp only [Objects.find?, hcell] at hg ⊢
    cases hb : h.cell b with
    | object fields =>
      rw [hb] at hg
      exact hg
    | array items =>
      rw [hb] at hg
      have hitems : h.items? (.ref b) = some items := by
        simp only [Objects.items?, Objects.find?, hb]
      obtain ⟨ps, hps, hpair⟩ := bind_ok_iff.1 hg
      exact bind_ok_iff.2
        ⟨ps, pairsFrom_congr (fun a ha => hv a (.inr ⟨items, hitems, ha⟩)) hps, hpair⟩

namespace Node.Intact

theorem kept (hn : n.Intact h g) (hk : g.Kept g') : n.Intact h g' := by
  intro a ha
  obtain ⟨hlt, hcell⟩ := hn a ha
  exact ⟨Nat.lt_of_lt_of_le hlt hk.size, (hk.cell a hlt).trans hcell⟩

theorem entriesIn (hn : n.Intact h g) (hg : n.flow.entriesIn g = .ok es) :
    n.flow.entriesIn h = .ok es := by
  unfold Intact at hn
  cases hflow : n.flow with
  | entries fields =>
    rw [hflow] at hg
    exact hg
  | value v =>
    rw [hflow] at hg hn
    exact entriesOf_congr (fun a ha => (hn a ha).2) hg

end Node.Intact

theorem Flow.Reads.mem {q : Scope} (hq : h.Holds q) {flow : Flow} (hflow : Within q flow)
    {a : Addr} (ha : flow.Reads h a) : a ∈ q.cells := by
  cases flow with
  | entries fields => exact ha.elim
  | value v =>
    obtain rfl | ⟨items, hitems, hmem⟩ := ha
    · exact hflow
    · cases v with
      | scalar s => cases hitems
      | ref b =>
        have hcell : h.cell b = .array items := by
          simp only [Objects.items?, Objects.find?] at hitems
          split at hitems
          · rename_i heq
            cases hitems
            exact Option.some.inj heq
          · cases hitems
        have hwithin := hq.within b hflow
        rw [hcell, within_array] at hwithin
        exact hwithin _ hmem

end Intact

theorem rename_eq_int_iff {ρ : Renaming} {v : Value} {m : Int} :
    rename ρ v = .int m ↔ v = .int m := by
  cases v with
  | ref a => simp
  | scalar a => cases a <;> simp [rename_scalar, rename_scalar_of_not_float]

namespace Node.Visit

variable {h : Objects} {document : Scope} {n : Node} {access : Access} {ps : Entries Value}
  {c : Call} {k : Nat} {t u : Store}

theorem run_flowEntries {flow : Flow} {es : Entries Value}
    (hrun : (flowEntries flow).run t = (.ok es, u)) : flow.entriesIn t.objects = .ok es := by
  cases flow with
  | entries fields =>
    cases hrun
    rfl
  | value v =>
    unfold flowEntries at hrun
    rw [run_bind_ok (StoreM.run_objects t)] at hrun
    cases hv : entriesOf t.objects v with
    | error f =>
      rw [hv, StoreM.run_ofExcept_error] at hrun
      cases hrun
    | ok fields =>
      rw [hv, StoreM.run_ofExcept_ok] at hrun
      cases hrun
      exact hv

theorem later_of_call (hn : n.Forward h document k) (hintact : n.Intact h t.objects)
    (hcall : (call n access ps).run t = (.ok c, u)) :
    ∃ es, c.HasFlow es u ∧ (∀ key ∈ successorKeys, ∀ m : Int,
        (Entries.get? key es).getD .null = .int m → (k : Int) < m) ∧
      ∀ a, c.flow = .ref a → t.objects.cells.size ≤ a := by
  obtain ⟨es, t₁, t₂, ρ, hk, hentries, hc, hfresh⟩ := hasFlow_of_call hcall
  refine ⟨rename ρ es, hc, fun key hkey m hm => ?_, hfresh⟩
  have hes : n.flow.entriesIn h = .ok es :=
    (hintact.kept hk.toKept).entriesIn (run_flowEntries hentries)
  rw [Reply.entry_rename, rename_eq_int_iff] at hm
  refine hn.later es hes key hkey m ?_
  cases hget : Entries.get? key es with
  | none =>
    rw [hget] at hm
    cases hm
  | some w =>
    rw [hget] at hm
    exact congrArg some hm

end Node.Visit

namespace Ceiling

def Above (limit : Scalar) (n : Nat) : Prop :=
  limit.number?.bind (Number.compare? (.int n)) = some .lt

theorem lt_of_le_of_lt {n k : Nat} {p : Position} (hk : k ≤ n)
    (h : Position.compare (.ofInt n) p = .lt) : Position.compare (.ofInt k) p = .lt := by
  cases p with
  | below => cases h
  | above => rfl
  | finite b =>
    have hn : (n : Int) * Position.unit < b := Int.compare_eq_lt.1 h
    have hunit : 0 ≤ Position.unit := Int.natCast_nonneg _
    have hle : (k : Int) * Position.unit ≤ n * Position.unit :=
      Int.mul_le_mul_of_nonneg_right (Int.ofNat_le.2 hk) hunit
    exact Int.compare_eq_lt.2 (Int.lt_of_le_of_lt hle hn)

theorem Above.not_reached {limit : Scalar} {n k : Nat} (h : Above limit n) (hk : k ≤ n) :
    reached limit k = false := by
  obtain ⟨x, hx, hlt⟩ := Option.bind_eq_some_iff.1 h
  have hcompare : Number.compare? (.int k) x = some .lt := by
    cases x with
    | int m =>
      have hm : (n : Int) < m := Int.compare_eq_lt.1 (Option.some.inj hlt)
      exact congrArg some (Int.compare_eq_lt.2 (by omega))
    | float y =>
      simp only [Number.compare?, Number.position?, Option.bind_eq_bind, Option.bind_some] at hlt ⊢
      obtain ⟨p, hp, hless⟩ := Option.bind_eq_some_iff.1 hlt
      rw [hp]
      exact congrArg some (lt_of_le_of_lt hk (Option.some.inj hless))
  unfold reached
  rw [hx, Option.bind_some, hcompare]

end Ceiling

namespace Interpreter

open Node (Evaluation)

variable {i : Interpreter} {nodes : List Node} {steps : Nat} {entry c : Value} {s t u : Session}
  {h : Objects} {document live graph : Scope} {es : List Evaluation} {e : Evaluation}
  {submitted : Submission}

theorem later_of_turn (hi : i.registry = .builtIn) (hl : t.Live live)
    (hforward : Node.AllForward h document nodes)
    (hintact : ∀ n ∈ nodes, n.Intact h t.store.objects)
    (hturn : (i.turn nodes steps c).run t = (.ok e, u)) {m : Int} (hm : e.output.next = .int m) :
    (e.index : Int) < m := by
  obtain ⟨v, x, w, _, happroach, hanswer, hindex, -, -⟩ := turn_ok hturn
  obtain ⟨n, t₁, hceiling, hfind, hprepare⟩ := approach_ok happroach
  obtain ⟨type, ps, t₂, -, -, hfinds, hps, hcall⟩ := Node.prepare_ok hprepare
  have hnode : nodes[v.visit.index]? = some n := (find?_eq_some_iff.1 hfind).2
  have hkeeps : t.store.Keeps t₂ := by
    have hchecked := keeping_checkCeiling i steps c t.store
    have hresolved := Node.Visit.keeping_parameters v.visit n t.record t₁
    rw [hceiling] at hchecked
    rw [hps] at hresolved
    exact hchecked.trans hresolved
  obtain ⟨fields, hflow, hlater, hfresh⟩ := Node.Visit.later_of_call (hforward _ n hnode)
    ((hintact n (List.mem_of_getElem? hnode)).kept hkeeps.toKept) (ok_of_rethrown hcall)
  have hk := (approach_keeps happroach).2
  have hhas : x.store.objects.Has x.store.root := by
    rw [hk.root]
    exact hl.has_root.kept hk.toKept
  have hapart : ∀ a ∈ x.store.objects.reach x.store.root, v.call.flow ≠ .ref a := by
    intro a ha hv
    rw [hk.root, hl.has_root.reach_kept hk.toKept] at ha
    have hnew := Nat.le_trans hkeeps.size (hfresh a hv)
    exact absurd (hl.has_root a ha) (Nat.not_lt_of_le hnew)
  obtain ⟨reply, hreply, haccept⟩ := Node.Invocation.answer_ok hanswer
  obtain ⟨p, hp, hb⟩ := hfinds
  rw [hi] at hb
  obtain ⟨result, key, hkey, rfl⟩ := BuiltIn.successor_of_builtIn hb hhas hapart hflow hreply
  rw [Reply.accept_output] at haccept
  obtain ⟨_, -, houtput⟩ := Option.map_eq_some_iff.1 haccept
  rw [← houtput] at hm
  rw [hindex]
  exact hlater key hkey m hm

def visited (nodes : List Node) (es : List Evaluation) (c : Value) : List Nat :=
  es.map (·.index) ++ ((find? nodes c).map (·.1)).toList

/-- The evaluated nodes follow each other upwards, and the index that is next is above them. -/
structure Ascends (nodes : List Node) (es : List Evaluation) (c : Value) : Prop where
  pairwise : (es.map (·.index)).Pairwise (· < ·)
  below : ∀ e ∈ es, e.index < nodes.length
  next : ∀ m : Int, c = .int m → ∀ e ∈ es, (e.index : Int) < m

theorem Ascends.turn (ha : Ascends nodes es c) (hi : i.registry = .builtIn) (hl : t.Live live)
    (hforward : Node.AllForward h document nodes)
    (hintact : ∀ n ∈ nodes, n.Intact h t.store.objects)
    (hturn : (i.turn nodes steps c).run t = (.ok e, u)) :
    Ascends nodes (es ++ [e]) e.output.next := by
  obtain ⟨n, hfind⟩ := found_of_turn hturn
  have habove := ha.next e.index (find?_eq_some_iff.1 hfind).1
  refine ⟨?_, fun e' he' => ?_, fun m hm e' he' => ?_⟩
  · rw [List.map_append, List.pairwise_append]
    refine ⟨ha.pairwise, List.pairwise_singleton _ _, fun k hk k' hk' => ?_⟩
    obtain ⟨e', he', rfl⟩ := List.mem_map.1 hk
    obtain rfl := List.mem_singleton.1 hk'
    exact Int.ofNat_lt.1 (habove e' he')
  · obtain hold | hnew := List.mem_append.1 he'
    · exact ha.below e' hold
    · obtain rfl := List.mem_singleton.1 hnew
      exact index_of_turn hturn
  · have hlast := later_of_turn hi hl hforward hintact hturn hm
    obtain hold | hnew := List.mem_append.1 he'
    · exact Int.lt_trans (habove e' hold) hlast
    · obtain rfl := List.mem_singleton.1 hnew
      exact hlast

theorem Course.ascends (hcourse : Course i nodes entry s es c t) (hi : i.registry = .builtIn)
    (hforward : Node.AllForward h document nodes)
    (hsound : ∀ es c t, Course i nodes entry s es c t →
      (∃ live, t.Live live) ∧ ∀ n ∈ nodes, n.Intact h t.store.objects) :
    Ascends nodes es c := by
  induction hcourse with
  | start => exact ⟨.nil, by simp, by simp⟩
  | next before _ turn ih =>
    obtain ⟨⟨live, hl⟩, hintact⟩ := hsound _ _ _ before
    exact ih.turn hi hl hforward hintact turn

namespace Ascends

theorem next_mem (ha : Ascends nodes es c) {k : Nat}
    (hk : k ∈ ((find? nodes c).map (·.1)).toList) :
    k < nodes.length ∧ ∀ e ∈ es, e.index < k := by
  obtain ⟨p, hp, rfl⟩ := Option.map_eq_some_iff.1 (Option.mem_toList.1 hk)
  obtain ⟨hc, hn⟩ := find?_eq_some_iff.1 hp
  refine ⟨(List.getElem?_eq_some_iff.1 hn).1, fun e he => ?_⟩
  exact Int.ofNat_lt.1 (ha.next p.1 hc e he)

theorem visited_pairwise (ha : Ascends nodes es c) :
    (visited nodes es c).Pairwise (· < ·) := by
  refine List.pairwise_append.2 ⟨ha.pairwise, ?_, fun k hk k' hk' => ?_⟩
  · cases find? nodes c <;> simp
  · obtain ⟨e, he, rfl⟩ := List.mem_map.1 hk
    exact (ha.next_mem hk').2 e he

theorem length_visited_le (ha : Ascends nodes es c) :
    (visited nodes es c).length ≤ nodes.length := by
  have hrange : visited nodes es c ⊆ List.range nodes.length := by
    intro k hk
    rw [List.mem_range]
    obtain hold | hnew := List.mem_append.1 hk
    · obtain ⟨e, he, rfl⟩ := List.mem_map.1 hold
      exact ha.below e he
    · exact (ha.next_mem hnew).1
  have hnodup : (visited nodes es c).Nodup := ha.visited_pairwise.imp Nat.ne_of_lt
  have hlength := (hnodup.subperm hrange).length_le
  rwa [List.length_range] at hlength

theorem length_le (ha : Ascends nodes es c) : es.length ≤ nodes.length := by
  have hvisited := ha.length_visited_le
  simp only [visited, List.length_append, List.length_map] at hvisited
  omega

end Ascends

/-- A course of a run comes to live sessions, with the control data of the graph as they were. -/
theorem sound_course (hi : i.registry = .builtIn) {s₁ : Session}
    (hdocument : s.store.objects.Holds document) (hroot : Within document s.store.root)
    (hgraph : s.store.objects.Holds graph) (hsubmitted : Within graph submitted)
    (hstart : (start entry submitted).run s = (.ok nodes, s₁))
    (hforward : Node.AllForward s.store.objects document nodes)
    (hcourse : Course i nodes entry s₁ es c t) :
    (∃ live, t.Live live) ∧ ∀ n ∈ nodes, n.Intact s.store.objects t.store.objects := by
  have hlive : Session.Live document ⟨s.store, .empty⟩ :=
    ⟨hdocument, hroot, fun _ he => (nomatch he), within_nil document⟩
  have hempty : (start entry submitted).run ⟨s.store, .empty⟩ = (.ok nodes, s₁) := by
    rw [run_start] at hstart ⊢
    exact hstart
  obtain ⟨live, hl₁, hw₁, hb, hc⟩ := start_live hlive hgraph hsubmitted hempty
  obtain ⟨live', hl₂, hw₂, -⟩ := course_live (hi ▸ Registry.local_builtIn) hl₁ hb hc hcourse
  have hw := hw₁.trans hw₂
  refine ⟨⟨live', hl₂⟩, fun n hn a ha => ?_⟩
  have hparsed := within_parseAll hgraph hsubmitted (start_ok hstart).1 n hn
  have hlt : a < s.store.objects.cells.size := hgraph.size a (ha.mem hgraph hparsed.2.2)
  obtain ⟨k, hk⟩ := List.mem_iff_getElem?.1 hn
  exact ⟨Nat.lt_of_lt_of_le hlt hw.size, hw.frame a hlt ((hforward k n hk).apart a ha)⟩

def under (i : Interpreter) (ceiling : Option Scalar) : Interpreter := { i with ceiling }

/-- A run of at most `bound` evaluations that is over, and not for want of steps. -/
def EndsBy (bound : Nat) (ending : Ending) : Prop :=
  (∃ k, k ≤ bound ∧ ending = .halted k) ∨
    ∃ k f, k ≤ bound ∧ ending = .failed k f ∧ ∀ limit, f ≠ .stepLimit limit

theorem EndsBy.fitsIn {bound turns : Nat} {ending : Ending} (h : EndsBy bound ending)
    (hl : bound < turns) : FitsIn turns ending := by
  obtain ⟨k, hk, rfl⟩ | ⟨k, f, hk, rfl, -⟩ := h
  · exact Nat.le_of_lt (Nat.lt_of_le_of_lt hk hl)
  · exact Nat.lt_of_le_of_lt hk hl

/-- Each type has the behavior in the registry that is built in for it. -/
def BuiltInTypes (r : Registry) (nodes : List Node) : Prop :=
  ∀ n ∈ nodes, ∀ type, n.type = .text type → r.get? type = Registry.builtIn.get? type

structure ForwardNodes (r : Registry) (h : Objects) (document : Scope) (bound : Nat)
    (nodes : List Node) : Prop where
  length : nodes.length = bound
  types : BuiltInTypes r nodes
  forward : Node.AllForward h document nodes

theorem ends_of_ascends {bound : Nat} (hi : i.registry = .builtIn) (hfree : i.ceiling = none)
    (hascends : ∀ nodes s₁ es c t, (start entry submitted).run s = (.ok nodes, s₁) →
      Course i nodes entry s₁ es c t → nodes.length = bound ∧ Ascends nodes es c) :
    EndsBy bound (i.run (bound + 1) entry submitted s).1 := by
  cases hs : (start entry submitted).run s with
  | mk started s₁ =>
    cases started with
    | error f =>
      rw [run_of_start_error hs]
      exact .inr ⟨0, f, Nat.zero_le _, rfl, (unlimited_of_start hs).ne⟩
    | ok nodes =>
      have hle {es : List Evaluation} {c : Value} {t : Session}
          (hcourse : Course i nodes entry s₁ es c t) : es.length ≤ bound := by
        obtain ⟨hlength, ha⟩ := hascends nodes s₁ es c t hs hcourse
        exact hlength ▸ ha.length_le
      cases hr : i.run (bound + 1) entry submitted s with
      | mk ending u =>
        obtain ⟨w, hstops, -⟩ := stops_of_run hs hr
        cases hstops with
        | halted course _ => exact .inl ⟨_, hle course, rfl⟩
        | failed course _ _ turn =>
          exact .inr ⟨_, _, hle course, rfl, (unlimited_of_turn hi hfree turn).ne⟩
        | unfinished course _ all =>
          have hlast := hle course
          omega

theorem hasRoom_under_none (i : Interpreter) (steps : Nat) : (i.under none).HasRoom steps :=
  fun _ h => nomatch h

theorem hasRoom_under_some {limit : Scalar} {n steps : Nat} (h : Ceiling.Above limit n)
    (hl : steps ≤ n) : (i.under (some limit)).HasRoom steps := by
  intro limit' hlimit
  cases hlimit
  exact h.not_reached hl

/-- Without a ceiling the run of a forward graph is over after as many evaluations as it has
nodes, and evaluates them upwards, none of them twice. Any ceiling beyond that number leaves the
run as it is. -/
theorem run_forward (i : Interpreter) {bound : Nat}
    (hdocument : s.store.objects.Holds document) (hroot : Within document s.store.root)
    (hgraph : s.store.objects.Holds graph) (hsubmitted : Within graph submitted)
    (hforward : ∀ nodes, Node.parseAll s.store.objects submitted = .ok nodes →
      ForwardNodes i.registry s.store.objects document bound nodes) (entry : Value) :
    ∃ ending u, EndsBy bound ending ∧
      (∀ turns, bound < turns → (i.under none).run turns entry submitted s = (ending, u)) ∧
      (∀ nodes s₁ es c t, (start entry submitted).run s = (.ok nodes, s₁) →
        Course (i.under none) nodes entry s₁ es c t →
          (visited nodes es c).Pairwise (· < ·) ∧ (visited nodes es c).length ≤ bound) ∧
      ∀ limit, Ceiling.Above limit bound → ∀ turns, bound < turns →
        (i.under (some limit)).run turns entry submitted s = (ending, u) := by
  let j : Interpreter := ⟨.builtIn, i.access, none⟩
  have halike {k : Interpreter} (haccess : k.access = i.access)
      (hregistry : k.registry = i.registry) {turns : Nat}
      (hroom : ∀ steps, steps < turns → k.HasRoom steps) (nodes : List Node)
      (hp : Node.parseAll s.store.objects submitted = .ok nodes) : TurnsAlike k j nodes turns :=
    fun steps hsteps => run_turn_congr haccess (hregistry ▸ (hforward nodes hp).types)
      (hroom steps hsteps) fun _ hnone => nomatch hnone
  have hascends (nodes : List Node) (s₁ : Session) (es : List Evaluation) (c : Value) (t : Session)
      (hstart : (start entry submitted).run s = (.ok nodes, s₁))
      (hcourse : Course j nodes entry s₁ es c t) : nodes.length = bound ∧ Ascends nodes es c := by
    have hnodes := hforward nodes (start_ok hstart).1
    refine ⟨hnodes.length, hcourse.ascends rfl hnodes.forward fun es c t hcourse => ?_⟩
    exact sound_course rfl hdocument hroot hgraph hsubmitted hstart hnodes.forward hcourse
  have hends := ends_of_ascends rfl rfl hascends
  -- Both interpreters take the turns of `j`, and one more than `bound` are enough.
  have hrun {k : Interpreter} (haccess : k.access = i.access) (hregistry : k.registry = i.registry)
      (hroom : ∀ steps, steps < bound + 1 → k.HasRoom steps) (turns : Nat) (hl : bound < turns) :
      k.run turns entry submitted s = j.run (bound + 1) entry submitted s := by
    have hsame : k.run (bound + 1) entry submitted s = j.run (bound + 1) entry submitted s :=
      run_eq_of_alike (halike haccess hregistry hroom)
    exact run_of_fitsIn hsame (hends.fitsIn hl)
  refine ⟨_, _, hends, hrun rfl rfl fun steps _ => i.hasRoom_under_none steps,
    fun nodes s₁ es c t hstart hcourse => ?_, fun limit habove => hrun rfl rfl
      fun steps hsteps => hasRoom_under_some habove (Nat.le_of_lt_succ hsteps)⟩
  have hturns : TurnsAlike (i.under none) j nodes es.length :=
    halike (k := i.under none) rfl rfl (fun steps _ => i.hasRoom_under_none steps) nodes
      (start_ok hstart).1
  obtain ⟨hlength, ha⟩ := hascends nodes s₁ es c t hstart (hturns.course hcourse (Nat.le_refl _))
  exact ⟨ha.visited_pairwise, hlength ▸ ha.length_visited_le⟩

def climb : Submission :=
  .list [.assembled (.text "flow.noop") [] (.entries [("next", .int 1)]),
    .assembled (.text "math.const") [("value", .tagged (.literal (.int 5)))] (.entries [])]

theorem run_forward_climb : ∃ u,
    (∀ turns, 2 < turns → (builtIn.under none).run turns (.int 0) climb blank = (.halted 2, u)) ∧
    ∀ limit, Ceiling.Above limit 2 → ∀ turns, 2 < turns →
      (builtIn.under (some limit)).run turns (.int 0) climb blank = (.halted 2, u) := by
  have hnothing : blank.store.objects.Holds ⟨∅, {0}⟩ :=
    ⟨fun _ ha => ha.elim, fun _ ha => ha.elim, fun _ hm => by cases hm; exact Nat.one_pos, rfl⟩
  have hparsed : Node.parseAll blank.store.objects climb = .ok
      [⟨.text "flow.noop", [], .entries [("next", .int 1)]⟩,
        ⟨.text "math.const", [("value", .literal (.int 5))], .entries []⟩] := rfl
  have hforward : ∀ nodes, Node.parseAll blank.store.objects climb = .ok nodes →
      ForwardNodes builtIn.registry blank.store.objects ⟨∅, {0}⟩ 2 nodes := by
    intro nodes hnodes
    cases hparsed.symm.trans hnodes
    refine ⟨rfl, fun _ _ _ _ => rfl, fun k n hn => ?_⟩
    match k with
    | 0 =>
      cases hn
      refine ⟨fun es hes key _ m hm => ?_, fun _ ha => ha.elim⟩
      cases hes
      cases List.mem_singleton.1 (Entries.mem_of_get? hm)
      decide
    | 1 =>
      cases hn
      refine ⟨fun es hes _ _ _ hm => ?_, fun _ ha => ha.elim⟩
      cases hes
      cases hm
    | k + 2 => cases hn
  have hgraph : Within ⟨∅, {0}⟩ climb := by
    simp [climb, Within, Carries.Within, Scalar.Marked]
  obtain ⟨ending, u, -, hfree, -, hcapped⟩ :=
    run_forward builtIn hnothing (within_null _) hnothing hgraph hforward (.int 0)
  have hhalts : ((builtIn.under none).run 3 (.int 0) climb blank).1.halts? = some 2 := by
    decide +kernel
  rw [hfree 3 (by decide)] at hhalts
  obtain rfl := Ending.eq_halted hhalts
  exact ⟨u, hfree, hcapped⟩

/-- What stands in the control data themselves names later nodes only, and still the run goes on
beyond the number of nodes. -/
def GoesRound (submitted : Submission) (s : Session) : Prop :=
  ∃ nodes, Node.parseAll s.store.objects submitted = .ok nodes ∧
    BuiltInTypes builtIn.registry nodes ∧
    (∀ (k : Nat) n es, nodes[k]? = some n → n.flow.contents? s.store.objects = some es →
      ∀ key ∈ successorKeys, ∀ m : Int, Entries.get? key es = some (.int m) → (k : Int) < m) ∧
    ∃ turns, nodes.length < turns ∧
      goesOn ((builtIn.under none).run turns (.int 0) submitted s).1 = true

/-- The first node writes its own index into the document, which is what the second one has for
control data. -/
def roundabout : Submission :=
  .list [.assembled (.text "world.set") [("path", .tagged (.literal (.text "/next"))),
      ("value", .tagged (.literal (.int 0)))] (.entries [("next", .int 1)]),
    .assembled (.text "flow.noop") [] (.value (.ref 0))]

/-- The control data are a list of pairs. It has no keys, but what is made of it for the behavior
does. -/
def paired : Submission := .list [.assembled (.text "flow.noop") [] (.value (.ref 1))]

def pairs : Session :=
  ⟨⟨⟨#[.object [], .array [.ref 2], .array [.text "next", .int 0]], 1⟩, .ref 0, #[]⟩, .empty⟩

/-- Control data that name later nodes only are not enough: they may be the document, or have their
keys only once they are read. -/
theorem roundabout_goes_round : GoesRound roundabout pairs ∧ GoesRound paired pairs := by
  constructor
  · have hparsed : Node.parseAll pairs.store.objects roundabout = .ok
        [⟨.text "world.set", [("path", .literal (.text "/next")), ("value", .literal (.int 0))],
            .entries [("next", .int 1)]⟩, ⟨.text "flow.noop", [], .value (.ref 0)⟩] := rfl
    refine ⟨_, hparsed, fun _ _ _ _ => rfl, fun k n es hn hes key _ m hm => ?_, 9, by decide,
      by decide +kernel⟩
    obtain _ | _ | k := k
    · obtain rfl := Option.some.inj hn
      obtain rfl := Option.some.inj hes
      cases List.mem_singleton.1 (Entries.mem_of_get? hm)
      decide
    · obtain rfl := Option.some.inj hn
      obtain rfl := Option.some.inj hes
      cases hm
    · cases hn
  · have hparsed : Node.parseAll pairs.store.objects paired =
        .ok [⟨.text "flow.noop", [], .value (.ref 1)⟩] := rfl
    have hnone : (Flow.value (.ref 1)).contents? pairs.store.objects = none := rfl
    refine ⟨_, hparsed, fun _ _ _ _ => rfl, fun k n es hn hes _ _ _ _ => ?_, 9, by decide,
      by decide +kernel⟩
    obtain _ | k := k
    · obtain rfl := Option.some.inj hn
      rw [hnone] at hes
      cases hes
    · cases hn

end Interpreter
end NodeWalk
