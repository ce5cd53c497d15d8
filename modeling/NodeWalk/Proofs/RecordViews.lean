import NodeWalk.Proofs.Gathering
import NodeWalk.Proofs.Sameness

set_option autoImplicit false

/-!
# The views of a record

However often keys are recorded and the record is emptied, all views of it show the last value
that was recorded for a key since it was last emptied. The record is what is recorded, gathered by
key; its outputs and its snapshot gather it again by the parts of the keys, and nothing comes
together there that was not the same key before.
-/
namespace NodeWalk

namespace Groups

variable {α : Type}

def find? (k : Scalar) (gs : Groups α) : Option α := Table.find? Scalar.same k gs

theorem update_eq_change (k : Scalar) (default : α) (f : α → α) (gs : Groups α) :
    gs.update k default f = Table.change Scalar.same k default f gs := by
  induction gs with
  | nil => rfl
  | cons g gs ih => simp only [update, Table.change, ih]

end Groups

namespace Table

variable {κ α : Type}

theorem change_const (same : κ → κ → Bool) (k : κ) (d d' a : α) (es : List (κ × α)) :
    change same k d (fun _ => a) es = change same k d' (fun _ => a) es := by
  induction es with
  | nil => rfl
  | cons e es ih => simp only [change, ih]

end Table

namespace Snapshot

def path? (n : Snapshot) (k : Key) : Option Value := do
  let indices ← Groups.find? k.entity n
  let sockets ← Groups.find? k.index indices
  Groups.find? k.socket sockets

def leaves (n : Snapshot) : Nat := (n.map fun g => (g.2.map fun g' => g'.2.length).sum).sum

end Snapshot

namespace Record

variable {es rs : List (Key × Value)} {k l : Key} {v : Value}

theorem write_eq_change (k : Key) (v : Value) (es : List (Key × Value)) :
    write k v es = Table.change Key.same k .null (fun _ => v) es := by
  induction es with
  | nil => rfl
  | cons e es ih => simp only [write, Table.change, ih]

theorem find?_eq (k : Key) (es : List (Key × Value)) : find? k es = Table.find? Key.same k es := by
  induction es with
  | nil => rfl
  | cons e es ih => simp only [find?, Table.find?, ih]

def latest? (rs : List (Key × Value)) (k : Key) : Option Value :=
  ((rs.filter fun e => k.same e.1).getLast?).map (·.2)

/-- The entries are what was recorded in this order, gathered by key. -/
def Holds (es rs : List (Key × Value)) : Prop :=
  es = Table.gather Key.same (·.1) .null (fun e _ => e.2) rs

namespace Holds

theorem write (h : Holds es rs) (k : Key) (v : Value) : Holds (write k v es) (rs ++ [(k, v)]) := by
  rw [Holds, Table.gather_concat, write_eq_change, ← h]

theorem find? (h : Holds es rs) (k : Key) : Record.find? k es = latest? rs k := by
  rw [find?_eq, h, Table.find?_gather_last Key.same_equivalence, latest?]

theorem keys (h : Holds es rs) : es.map (·.1) = (rs.map (·.1)).eraseDupsBy Key.same := by
  rw [h, Table.keys_gather Key.same_equivalence]

theorem distinct (h : Holds es rs) : es.Pairwise fun e e' => e.1.same e'.1 = false := by
  have hkeys := pairwise_eraseDupsBy Key.same_equivalence (rs.map (·.1))
  rwa [← h.keys, List.pairwise_map] at hkeys

end Holds

theorem latest?_eq_find? (h : es.Pairwise fun e e' => e.1.same e'.1 = false) (k : Key) :
    latest? es k = find? k es := by
  induction es with
  | nil => rfl
  | cons e es ih =>
    obtain ⟨he, hes⟩ := List.pairwise_cons.1 h
    cases hk : e.1.same k with
    | true =>
      have hsame : k.same e.1 = true := Key.same_equivalence.symm hk
      have hrest : (es.filter fun e' => k.same e'.1) = [] := by
        refine List.filter_eq_nil_iff.2 fun e' he' => ?_
        rw [same_congr Key.same_equivalence hsame, he e' he']
        exact Bool.false_ne_true
      simp [latest?, find?, hk, hsame, hrest]
    | false =>
      have hother : k.same e.1 = false := (same_comm Key.same_equivalence k e.1).trans hk
      simp only [latest?, List.filter_cons, hother, find?, hk] at ih ⊢
      exact ih hes

def sockets (es : List (Key × Value)) : Groups Value :=
  Table.gather Scalar.same (·.1.socket) .null (fun e _ => e.2) es

def indices (es : List (Key × Value)) : Groups (Groups Value) :=
  Table.gather Scalar.same (·.1.index) []
    (fun e => Table.change Scalar.same e.1.socket .null fun _ => e.2) es

def entities (es : List (Key × Value)) : Snapshot :=
  Table.gather Scalar.same (·.1.entity) []
    (fun e => Table.change Scalar.same e.1.index [] <|
      Table.change Scalar.same e.1.socket .null fun _ => e.2) es

theorem update_socket (e : Key × Value) (ss : Groups Value) :
    (ss.update e.1.socket e.2 fun _ => e.2) =
      Table.change Scalar.same e.1.socket .null (fun _ => e.2) ss := by
  rw [Groups.update_eq_change, Table.change_const]

theorem snapshot_eq (r : Record) : r.snapshot = entities r.entries := by
  simp only [snapshot, update_socket]
  simp only [Groups.update_eq_change]
  rfl

theorem outputs_eq (r : Record) (a b : Scalar) (ha : ¬ a.IsNaN) (hb : ¬ b.IsNaN) :
    r.outputs (.scalar a) (.scalar b) =
      sockets (r.entries.filter fun e => a.same e.1.entity && b.same e.1.index) := by
  simp only [outputs, outputs.equals, update_socket, Scalar.agree_eq_same ha,
    Scalar.agree_eq_same hb]
  exact List.foldl_filter.symm

theorem indices_eq (es : List (Key × Value)) :
    indices es = ((es.map (·.1.index)).eraseDupsBy Scalar.same).map fun b =>
      (b, sockets (es.filter fun e => b.same e.1.index)) :=
  Table.gather_eq Scalar.same_equivalence _ es

theorem entities_eq (es : List (Key × Value)) :
    entities es = ((es.map (·.1.entity)).eraseDupsBy Scalar.same).map fun a =>
      (a, indices (es.filter fun e => a.same e.1.entity)) :=
  Table.gather_eq Scalar.same_equivalence _ es

theorem keys_sockets (es : List (Key × Value)) :
    (sockets es).map (·.1) = (es.map (·.1.socket)).eraseDupsBy Scalar.same :=
  Table.keys_gather Scalar.same_equivalence _ es

theorem keys_indices (es : List (Key × Value)) :
    (indices es).map (·.1) = (es.map (·.1.index)).eraseDupsBy Scalar.same :=
  Table.keys_gather Scalar.same_equivalence _ es

theorem keys_entities (es : List (Key × Value)) :
    (entities es).map (·.1) = (es.map (·.1.entity)).eraseDupsBy Scalar.same :=
  Table.keys_gather Scalar.same_equivalence _ es

theorem mem_indices {g : Scalar × Groups Value} (hg : g ∈ indices es) :
    g.2 = sockets (es.filter fun e => g.1.same e.1.index) ∧ g.2 ≠ [] := by
  obtain ⟨hsome, hsockets⟩ := Table.mem_gather Scalar.same_equivalence hg
  exact ⟨hsockets, hsockets ▸ Table.gather_ne_nil Scalar.same_equivalence hsome _⟩

theorem mem_entities {g : Scalar × Groups (Groups Value)} (hg : g ∈ entities es) :
    g.2 = indices (es.filter fun e => g.1.same e.1.entity) ∧ g.2 ≠ [] := by
  obtain ⟨hsome, hindices⟩ := Table.mem_gather Scalar.same_equivalence hg
  exact ⟨hindices, hindices ▸ Table.gather_ne_nil Scalar.same_equivalence hsome _⟩

theorem latest?_eq_filter (es : List (Key × Value)) (k : Key) : latest? es k =
    ((((es.filter fun e => k.entity.same e.1.entity).filter fun e => k.index.same e.1.index).filter
      fun e => k.socket.same e.1.socket).getLast?).map (·.2) := by
  simp only [latest?, Key.same, List.filter_filter]
  congr 3
  funext e
  cases k.entity.same e.1.entity <;> cases k.index.same e.1.index <;> simp

theorem find?_sockets (es : List (Key × Value)) (c : Scalar) : Groups.find? c (sockets es) =
    ((es.filter fun e => c.same e.1.socket).getLast?).map (·.2) :=
  Table.find?_gather_last Scalar.same_equivalence (fun e : Key × Value => e.2) es c

theorem find?_indices (es : List (Key × Value)) (b : Scalar) : Groups.find? b (indices es) =
    if (es.filter fun e => b.same e.1.index) = [] then none
    else some (sockets (es.filter fun e => b.same e.1.index)) :=
  Table.find?_gather Scalar.same_equivalence _ es b

theorem find?_entities (es : List (Key × Value)) (a : Scalar) : Groups.find? a (entities es) =
    if (es.filter fun e => a.same e.1.entity) = [] then none
    else some (indices (es.filter fun e => a.same e.1.entity)) :=
  Table.find?_gather Scalar.same_equivalence _ es a

theorem path?_entities (es : List (Key × Value)) (k : Key) :
    (entities es).path? k = latest? es k := by
  rw [latest?_eq_filter, Snapshot.path?, find?_entities]
  split
  · rename_i hnone
    rw [hnone]
    rfl
  · simp only [Option.bind_eq_bind, Option.bind_some, find?_indices]
    split
    · rename_i hnone
      rw [hnone]
      rfl
    · exact find?_sockets _ _

theorem length_sockets (h : es.Pairwise fun e e' => e.1.socket.same e'.1.socket = false) :
    (sockets es).length = es.length := by
  have hkeys : (es.map (·.1.socket)).eraseDupsBy Scalar.same = es.map (·.1.socket) :=
    eraseDupsBy_of_pairwise Scalar.same_equivalence (List.pairwise_map.2 h)
  have hlength := congrArg List.length ((keys_sockets es).trans hkeys)
  rwa [List.length_map, List.length_map] at hlength

theorem sockets_distinct (h : es.Pairwise fun e e' => e.1.same e'.1 = false) (a b : Scalar) :
    ((es.filter fun e => a.same e.1.entity).filter fun e => b.same e.1.index).Pairwise
      fun e e' => e.1.socket.same e'.1.socket = false := by
  refine ((h.filter _).filter _).imp_of_mem fun he he' hne => ?_
  obtain ⟨he, hindex⟩ := List.mem_filter.1 he
  obtain ⟨he', hindex'⟩ := List.mem_filter.1 he'
  have hsame := Scalar.same_equivalence
  have hentities := hsame.trans (hsame.symm (List.mem_filter.1 he).2) (List.mem_filter.1 he').2
  have hindices := hsame.trans (hsame.symm hindex) hindex'
  simpa [Key.same, hentities, hindices] using hne

theorem leaves_entities (h : es.Pairwise fun e e' => e.1.same e'.1 = false) :
    (entities es).leaves = es.length := by
  have hindices (a : Scalar) :
      ((indices (es.filter fun e => a.same e.1.entity)).map fun g => g.2.length).sum =
        (es.filter fun e => a.same e.1.entity).length := by
    rw [indices_eq, List.map_map,
      ← Table.sum_length_filter Scalar.same_equivalence fun e : Key × Value => e.1.index]
    exact congrArg List.sum (List.map_congr_left fun b _ => length_sockets (sockets_distinct h a b))
  rw [Snapshot.leaves, entities_eq, List.map_map,
    ← Table.sum_length_filter Scalar.same_equivalence fun e : Key × Value => e.1.entity]
  exact congrArg List.sum (List.map_congr_left fun a _ => hindices a)

/-- Keys that are kept by all of sameness, and parts of them that go with sameness, first come in
the entries where they first came in what was recorded. -/
theorem Holds.parts (h : Holds es rs) (p : Key → Bool) (part : Key → Scalar)
    (hp : ∀ k l, k.same l = true → p k = p l)
    (hpart : ∀ k l, k.same l = true → (part k).same (part l) = true) :
    ((es.filter fun e => p e.1).map fun e => part e.1).eraseDupsBy Scalar.same =
      ((rs.filter fun e => p e.1).map fun e => part e.1).eraseDupsBy Scalar.same := by
  have hkeys (es : List (Key × Value)) : (es.filter fun e => p e.1).map (fun e => part e.1) =
      ((es.map (·.1)).filter p).map part := by
    rw [List.filter_map, List.map_map]
    rfl
  rw [hkeys, hkeys, h.keys, filter_eraseDupsBy Key.same_equivalence hp,
    eraseDupsBy_map_eraseDupsBy Key.same_equivalence Scalar.same_equivalence hpart]

inductive Call where
  | record (k : Key) (v : Value)
  | reset
  | read (k : Key)
  | has (k : Key)
  | outputs (entity index : Value)
  | snapshot

def Call.Looks : Call → Prop
  | .record _ _ | .reset => False
  | .read _ | .has _ | .outputs _ _ | .snapshot => True

inductive Answer where
  | done
  | value (read : Except Fault Value)
  | truth (b : Bool)
  | sockets (found : Groups Value)
  | nested (n : Snapshot)

def perform (r : Record) : Call → Answer × Record
  | .record k v => (.done, r.record k v)
  | .reset => (.done, .empty)
  | .read k => (.value (r.read k), r)
  | .has k => (.truth (r.has k), r)
  | .outputs entity index => (.sockets (r.outputs entity index), r)
  | .snapshot => (.nested r.snapshot, r)

theorem perform_of_looks {call : Call} (h : call.Looks) (r : Record) : (r.perform call).2 = r := by
  cases call with
  | record | reset => exact h.elim
  | _ => rfl

/-- A new record after the calls. -/
def after (calls : List Call) : Record := calls.foldl (fun r call => (r.perform call).2) .empty

def noted (rs : List (Key × Value)) : Call → List (Key × Value)
  | .record k v => rs ++ [(k, v)]
  | .reset => []
  | .read _ | .has _ | .outputs _ _ | .snapshot => rs

/-- What was recorded since the record was last reset, earliest first. -/
def since (calls : List Call) : List (Key × Value) := calls.foldl noted []

theorem holds_after (calls : List Call) : Holds (after calls).entries (since calls) := by
  have hfold (r : Record) (rs : List (Key × Value)) (h : Holds r.entries rs) :
      Holds (calls.foldl (fun r call => (r.perform call).2) r).entries (calls.foldl noted rs) := by
    induction calls generalizing r rs with
    | nil => exact h
    | cons call calls ih =>
      refine ih _ _ ?_
      cases call with
      | record k v => exact h.write k v
      | reset => rfl
      | _ => exact h
  exact hfold .empty [] rfl

structure Shows (r : Record) (rs : List (Key × Value)) : Prop where
  has : ∀ k, r.has k = (latest? rs k).isSome
  read : ∀ k, r.read k =
    (latest? rs k).elim (.error (Fault.unresolved k.index k.socket none).settled) .ok
  outputs : ∀ k : Key, ¬ k.entity.IsNaN → ¬ k.index.IsNaN →
    Groups.find? k.socket (r.outputs (.scalar k.entity) (.scalar k.index)) = latest? rs k
  snapshot : ∀ k, r.snapshot.path? k = latest? rs k
  leaves : r.snapshot.leaves = r.size
  inhabited : ∀ g ∈ r.snapshot, g.2 ≠ [] ∧ ∀ g' ∈ g.2, g'.2 ≠ []
  /-- Keys, and on each level their parts, come in the order in which they were first recorded, and
  as they were then. -/
  keys : r.entries.map (·.1) = (rs.map (·.1)).eraseDupsBy Key.same
  entities : r.snapshot.map (·.1) = (rs.map (·.1.entity)).eraseDupsBy Scalar.same
  indices : ∀ g ∈ r.snapshot, g.2.map (·.1) =
    ((rs.filter fun e => g.1.same e.1.entity).map (·.1.index)).eraseDupsBy Scalar.same
  sockets : ∀ g ∈ r.snapshot, ∀ g' ∈ g.2, g'.2.map (·.1) =
    ((rs.filter fun e => g.1.same e.1.entity && g'.1.same e.1.index).map
      (·.1.socket)).eraseDupsBy Scalar.same
  outputSockets : ∀ a b : Scalar, ¬ a.IsNaN → ¬ b.IsNaN →
    (r.outputs (.scalar a) (.scalar b)).map (·.1) =
      ((rs.filter fun e => a.same e.1.entity && b.same e.1.index).map
        (·.1.socket)).eraseDupsBy Scalar.same

namespace Holds

variable {r : Record}

theorem latest? (h : Holds es rs) (k : Key) : Record.latest? es k = Record.latest? rs k := by
  rw [latest?_eq_find? h.distinct, h.find?]

theorem find?_outputs (h : Holds r.entries rs) {k : Key} (ha : ¬ k.entity.IsNaN)
    (hb : ¬ k.index.IsNaN) : Groups.find? k.socket
      (r.outputs (.scalar k.entity) (.scalar k.index)) = Record.latest? rs k := by
  rw [outputs_eq r _ _ ha hb, find?_sockets, List.filter_filter, ← h.latest?, Record.latest?]
  simp only [Key.same, Bool.and_comm]

theorem entities_first (h : Holds r.entries rs) :
    r.snapshot.map (·.1) = (rs.map (·.1.entity)).eraseDupsBy Scalar.same := by
  have hparts := h.parts (fun _ => true) Key.entity (fun _ _ _ => rfl)
    fun _ _ hk => (Key.same_iff.1 hk).1
  have hall (es : List (Key × Value)) : (es.filter fun _ => true) = es :=
    List.filter_eq_self.2 fun _ _ => rfl
  rw [hall, hall] at hparts
  rw [snapshot_eq, keys_entities, hparts]

theorem indices_first (h : Holds r.entries rs) {g : Scalar × Groups (Groups Value)}
    (hg : g ∈ r.snapshot) : g.2.map (·.1) =
      ((rs.filter fun e => g.1.same e.1.entity).map (·.1.index)).eraseDupsBy Scalar.same := by
  rw [snapshot_eq] at hg
  rw [(mem_entities hg).1, keys_indices]
  exact h.parts (fun k => g.1.same k.entity) Key.index
    (fun _ _ hk => same_congr_right Scalar.same_equivalence (Key.same_iff.1 hk).1 _)
    fun _ _ hk => (Key.same_iff.1 hk).2.1

theorem sockets_first (h : Holds es rs) (a b : Scalar) :
    (sockets (es.filter fun e => a.same e.1.entity && b.same e.1.index)).map (·.1) =
      ((rs.filter fun e => a.same e.1.entity && b.same e.1.index).map
        (·.1.socket)).eraseDupsBy Scalar.same := by
  rw [keys_sockets]
  refine h.parts (fun k => a.same k.entity && b.same k.index) Key.socket (fun k l hk => ?_)
    fun _ _ hk => (Key.same_iff.1 hk).2.2
  obtain ⟨hentity, hindex, -⟩ := Key.same_iff.1 hk
  rw [same_congr_right Scalar.same_equivalence hentity,
    same_congr_right Scalar.same_equivalence hindex]

theorem mem_mem_snapshot {g : Scalar × Groups (Groups Value)} {g' : Scalar × Groups Value}
    (hg : g ∈ r.snapshot) (hg' : g' ∈ g.2) :
    g'.2 = sockets (r.entries.filter fun e => g.1.same e.1.entity && g'.1.same e.1.index) ∧
      g'.2 ≠ [] := by
  rw [snapshot_eq] at hg
  rw [(mem_entities hg).1] at hg'
  obtain ⟨hsockets, hne⟩ := mem_indices hg'
  rw [List.filter_filter] at hsockets
  simp only [Bool.and_comm] at hsockets ⊢
  exact ⟨hsockets, hne⟩

theorem shows (h : Holds r.entries rs) : r.Shows rs where
  has k := congrArg Option.isSome (h.find? k)
  read k := by
    rw [Record.read, h.find?]
    cases Record.latest? rs k <;> rfl
  outputs k := h.find?_outputs
  snapshot k := by rw [snapshot_eq, path?_entities, h.latest?]
  leaves := by
    rw [snapshot_eq, leaves_entities h.distinct]
    rfl
  inhabited g hg :=
    ⟨(mem_entities (snapshot_eq r ▸ hg)).2, fun g' hg' => (mem_mem_snapshot hg hg').2⟩
  keys := h.keys
  entities := h.entities_first
  indices g hg := h.indices_first hg
  sockets g hg g' hg' := by
    rw [(mem_mem_snapshot hg hg').1]
    exact h.sockets_first g.1 g'.1
  outputSockets a b ha hb := by
    rw [outputs_eq r a b ha hb]
    exact h.sockets_first a b

end Holds

/-- Whatever calls there were, all views of the record show what was recorded since it was last
reset, the last value of each key where the key first came. To look at it changes nothing. -/
theorem views_agree (calls : List Call) : (after calls).Shows (since calls) ∧
    ∀ looks : List Call, (∀ call ∈ looks, call.Looks) → after (calls ++ looks) = after calls := by
  refine ⟨(holds_after calls).shows, fun looks hlooks => ?_⟩
  rw [after, List.foldl_append]
  change looks.foldl _ (after calls) = after calls
  induction looks with
  | nil => rfl
  | cons call looks ih =>
    obtain ⟨hcall, hlooks⟩ := List.forall_mem_cons.1 hlooks
    rw [List.foldl_cons, perform_of_looks hcall]
    exact ih hlooks

def mixed : List Call :=
  [.record ⟨.text "$node", .int 1, .text "x"⟩ (.int 10),
    .record ⟨.text "$node", .bool true, .text "y"⟩ (.int 20),
    .record ⟨.text "$node", .float ⟨0x3FF0000000000000, 0⟩, .text "x"⟩ (.int 30)]

theorem views_agree_mixed :
    Groups.find? (.text "x") ((after mixed).outputs (.text "$node")
      (.scalar (.float ⟨0x3FF0000000000000, 0⟩))) = some (.int 30) ∧
      (after mixed).snapshot.map (·.1) = [.text "$node"] ∧
      after (mixed ++ [.snapshot, .outputs .null .null]) = after mixed := by
  obtain ⟨shows, looks⟩ := views_agree mixed
  have hlatest : latest? (since mixed)
      ⟨.text "$node", .float ⟨0x3FF0000000000000, 0⟩, .text "x"⟩ = some (.int 30) := by
    decide +kernel
  have hentities : ((since mixed).map (·.1.entity)).eraseDupsBy Scalar.same = [.text "$node"] := by
    decide +kernel
  refine ⟨(shows.outputs ⟨.text "$node", .float ⟨0x3FF0000000000000, 0⟩, .text "x"⟩ ?_ ?_).trans
    hlatest, shows.entities.trans hentities, looks _ ?_⟩
  · rintro ⟨x, hx, -⟩
    cases hx
  · rintro ⟨x, hx, hnan⟩
    cases hx
    revert hnan
    decide +kernel
  · simp [Call.Looks]

end Record
end NodeWalk
