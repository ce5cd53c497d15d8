import NodeWalk.Proofs.Actions
import NodeWalk.Proofs.NodeForm

set_option autoImplicit false

/-!
# The start of a run

Starting clears the record, parses the nodes and checks the entry. It is done
without the registry and writes to nothing but the log, so what is left when it
fails is the store as it was, with an empty record.
-/
namespace NodeWalk.Interpreter

theorem find?_eq_some_iff {nodes : List Node} {index : Value} {p : Nat × Node} :
    find? nodes index = some p ↔ index = .int p.1 ∧ nodes[p.1]? = some p.2 := by
  obtain ⟨k, node⟩ := p
  constructor
  · intro h
    unfold find? at h
    split at h
    · rename_i n
      split at h
      · rename_i hn
        obtain ⟨node', hnode, he⟩ := Option.map_eq_some_iff.1 h
        cases he
        exact ⟨by simp [Int.toNat_of_nonneg hn], hnode⟩
      · cases h
    · cases h
  · rintro ⟨rfl, hn⟩
    simp [find?, hn]

theorem run_nodeAt (nodes : List Node) (index : Value) (s : Store) :
    (nodeAt nodes index).run s = match find? nodes index with
      | some p => (.ok p, s)
      | none => (.error (Fault.invalidIndex (s.objects.unfold index) nodes.length).settled, s) := by
  unfold nodeAt
  cases find? nodes index <;> rfl

def startNotice (nodes : List Node) (entry : Text) : Notice :=
  ⟨.info, .interpreter, "Running behavior graph from node " ++ entry ++ " ("
    ++ toString nodes.length ++ " nodes)", false⟩

variable {entry : Value} {submitted : Submission} {s t : Session} {nodes : List Node}

theorem run_start (entry : Value) (submitted : Submission) (s : Session) :
    (start entry submitted).run s = match Node.parseAll s.store.objects submitted with
      | .error f => (.error f.settled, ⟨s.store, .empty⟩)
      | .ok nodes =>
        match s.store.objects.plain? entry with
        | none => (.error Fault.integerTooLong.settled, ⟨s.store, .empty⟩)
        | some text =>
          let u := { s.store with log := s.store.log.push (startNotice nodes text) }
          match find? nodes entry with
          | some _ => (.ok nodes, ⟨u, .empty⟩)
          | none =>
            (.error (Fault.invalidIndex (u.objects.unfold entry) nodes.length).settled,
              ⟨u, .empty⟩) := by
  unfold start
  rw [run_bind_ok (SessionM.run_onRecord _ _), SessionM.run_onStore,
    run_bind_ok (StoreM.run_objects _)]
  cases Node.parseAll s.store.objects submitted with
  | error f => rw [run_bind_error (StoreM.run_ofExcept_error f s.store)]
  | ok nodes =>
    rw [run_bind_ok (StoreM.run_ofExcept_ok nodes s.store), run_bind, StoreM.run_plain]
    cases s.store.objects.plain? entry with
    | none => rfl
    | some text =>
      dsimp only
      rw [run_bind_ok (StoreM.run_report _ _), run_bind, run_nodeAt]
      cases find? nodes entry <;> rfl

theorem start_ok (h : (start entry submitted).run s = (.ok nodes, t)) :
    Node.parseAll s.store.objects submitted = .ok nodes ∧ (∃ p, find? nodes entry = some p) ∧
      ∃ text, t = ⟨{ s.store with log := s.store.log.push (startNotice nodes text) }, .empty⟩ := by
  rw [run_start] at h
  cases hp : Node.parseAll s.store.objects submitted with
  | error f => rw [hp] at h; cases h
  | ok ns =>
    rw [hp] at h
    dsimp only at h
    cases ht : s.store.objects.plain? entry with
    | none => rw [ht] at h; cases h
    | some text =>
      rw [ht] at h
      dsimp only at h
      cases hf : find? ns entry with
      | none => rw [hf] at h; cases h
      | some p =>
        rw [hf] at h
        cases h
        exact ⟨rfl, ⟨p, hf⟩, text, rfl⟩

theorem start_error {f : Fault} (h : (start entry submitted).run s = (.error f, t)) :
    t.record = .empty ∧ t.store.objects = s.store.objects ∧ t.store.root = s.store.root := by
  rw [run_start] at h
  cases hp : Node.parseAll s.store.objects submitted with
  | error f => rw [hp] at h; cases h; exact ⟨rfl, rfl, rfl⟩
  | ok ns =>
    rw [hp] at h
    dsimp only at h
    cases ht : s.store.objects.plain? entry with
    | none => rw [ht] at h; cases h; exact ⟨rfl, rfl, rfl⟩
    | some text =>
      rw [ht] at h
      dsimp only at h
      cases hf : find? ns entry with
      | none => rw [hf] at h; cases h; exact ⟨rfl, rfl, rfl⟩
      | some p => rw [hf] at h; cases h

theorem acceptable_of_start (h : (start entry submitted).run s = (.ok nodes, t)) :
    submitted.Acceptable s.store.objects entry := by
  obtain ⟨hp, ⟨p, hf⟩, -⟩ := start_ok h
  obtain ⟨hv, hn⟩ := find?_eq_some_iff.1 hf
  obtain ⟨sources, hs, hwf⟩ := Node.exists_parseAll_iff.1 ⟨nodes, hp⟩
  obtain ⟨sources', hs', hall⟩ := Node.parsed_of_parseAll hp
  rw [hs] at hs'
  cases hs'
  have hlt : p.1 < nodes.length := (List.getElem?_eq_some_iff.1 hn).1
  exact ⟨sources, hs, hwf, p.1, hv, by rw [hall.length_eq]; exact hlt⟩

end NodeWalk.Interpreter
