import Mathlib.Data.Bool.AllAny
import Mathlib.Data.List.Chain
import NodeWalk.Proofs.Actions
import NodeWalk.Proofs.ReadPieces

set_option autoImplicit false

/-!
# Written documents

What writing appends to a text is a piece that is read again, by induction on the tree; a
document that was written held no container inside itself. Where no text of it has two halves
that are a pair, it is read as the same tree. All characters of the written text are plain
ones, so its octets are its characters.
-/
namespace NodeWalk

theorem eq_of_map_eq {α β : Type} {f : α → β} {xs ys : List α}
    (hf : ∀ x ∈ xs, ∀ y, f x = f y → x = y) (h : xs.map f = ys.map f) : xs = ys := by
  induction xs generalizing ys with
  | nil => exact (List.map_eq_nil_iff.1 h.symm).symm
  | cons x xs ih =>
    obtain ⟨hx, hxs⟩ := List.forall_mem_cons.1 hf
    obtain ⟨y, ys, rfl, hy, hys⟩ := List.map_eq_cons_iff.1 h.symm
    rw [hx y hy.symm, ih hxs hys.symm]

def CodePoint.pairs : CodePoint → CodePoint → Bool
  | .high _, .low _ => true
  | _, _ => false

/-- Nowhere in the text do two halves of a pair stand behind each other. -/
def Text.Unpaired (s : Text) : Prop := s.points.IsChain fun a b => a.pairs b = false

instance (s : Text) : Decidable s.Unpaired :=
  inferInstanceAs (Decidable (s.points.IsChain fun a b => a.pairs b = false))

theorem CodePoint.joined_of_isChain {cs : List CodePoint}
    (h : cs.IsChain fun a b => a.pairs b = false) : joined cs = cs := by
  induction cs using joined.induct with
  | case1 m n cs ih => cases (List.isChain_cons_cons.1 h).1
  | case2 c cs hnext ih => rw [joined.eq_2 c cs hnext, ih (List.isChain_cons.1 h).2]
  | case3 => rfl

theorem Text.Unpaired.joined {s : Text} (h : s.Unpaired) : s.joined = s :=
  Text.ext (CodePoint.joined_of_isChain h)

namespace Json

mutual

/-- What a document is after it was written and read. -/
def reread : Json → Json
  | .scalar a => .scalar a.reread
  | .array items => .array (itemsReread items)
  | .object entries => .object (Entries.ofPairs (membersReread entries))

def itemsReread : List Json → List Json
  | [] => []
  | j :: js => reread j :: itemsReread js

def membersReread : List (Text × Json) → List (Text × Json)
  | [] => []
  | (k, j) :: es => (k.joined, reread j) :: membersReread es

end

mutual

/-- The document with each number that is none in the one way that documents have. -/
def readBack : Json → Json
  | .scalar a => .scalar a.readBack
  | .array items => .array (itemsReadBack items)
  | .object entries => .object (membersReadBack entries)

def itemsReadBack : List Json → List Json
  | [] => []
  | j :: js => readBack j :: itemsReadBack js

def membersReadBack : List (Text × Json) → List (Text × Json)
  | [] => []
  | (k, j) :: es => (k, readBack j) :: membersReadBack es

end

theorem itemsReread_eq (items : List Json) : itemsReread items = items.map reread := by
  induction items with
  | nil => rfl
  | cons j js ih => rw [itemsReread, ih, List.map_cons]

theorem membersReread_eq (entries : List (Text × Json)) :
    membersReread entries = entries.map fun e => (e.1.joined, reread e.2) := by
  induction entries with
  | nil => rfl
  | cons e es ih => rw [membersReread, ih, List.map_cons]

theorem itemsReadBack_eq (items : List Json) : itemsReadBack items = items.map readBack := by
  induction items with
  | nil => rfl
  | cons j js ih => rw [itemsReadBack, ih, List.map_cons]

theorem membersReadBack_eq (entries : List (Text × Json)) :
    membersReadBack entries = entries.map fun e => (e.1, readBack e.2) := by
  induction entries with
  | nil => rfl
  | cons e es ih => rw [membersReadBack, ih, List.map_cons]

theorem keys_membersReadBack (entries : List (Text × Json)) :
    Entries.keys (membersReadBack entries) = Entries.keys entries := by
  rw [membersReadBack_eq, Entries.keys, List.map_map]
  rfl

theorem unfolding_injective : Function.Injective unfolding := by
  intro j
  induction j using induct with
  | scalar a =>
    intro k h
    cases k with
    | scalar b => exact congrArg Json.scalar (Unfolding.scalar.inj h)
    | array items => cases h
    | object entries => cases h
  | array items ih =>
    intro k h
    cases k with
    | scalar b => cases h
    | object entries => cases h
    | array others =>
      have hitems := Unfolding.array.inj h
      rw [unfoldings_eq, unfoldings_eq] at hitems
      rw [eq_of_map_eq (fun j hj k hk => ih j hj hk) hitems]
  | object entries ih =>
    intro k h
    cases k with
    | scalar b => cases h
    | array items => cases h
    | object others =>
      have hentries := Unfolding.object.inj h
      rw [memberUnfoldings_eq, memberUnfoldings_eq] at hentries
      refine congrArg Json.object (eq_of_map_eq (fun e he e' hee => ?_) hentries)
      obtain ⟨hkey, hvalue⟩ := Prod.mk.inj hee
      exact Prod.ext hkey (ih e he hvalue)

/-- A character of one octet that does not end a line by itself. -/
def Plain (c : Char) : Prop := c.toNat < 0x80 ∧ c ≠ '\r'

instance (c : Char) : Decidable (Plain c) := inferInstanceAs (Decidable (_ ∧ _))

/-- The characters of a closed text are looked at one by one, not among all characters. -/
theorem plain_of_all {cs : List Char} (h : (cs.all fun c => decide (Plain c)) = true) :
    ∀ c ∈ cs, Plain c := List.all_iff_forall_prop.1 h

theorem plain_of_isDigit {c : Char} (h : c.isDigit = true) : Plain c := by
  refine ⟨Text.lt_of_isDigit h, ?_⟩
  rintro rfl
  exact absurd h (by decide)

theorem plain_signed (negative : Bool) {cs : List Char} (h : ∀ c ∈ cs, Plain c) :
    ∀ c ∈ signed negative cs, Plain c := by
  cases negative with
  | false => exact h
  | true => exact List.forall_mem_cons.2 ⟨by decide, h⟩

theorem NumberText.Proper.plain {t : NumberText} (h : t.Proper) : ∀ c ∈ t.chars, Plain c := by
  have hdigits (c : Char) (hc : c ∈ t.whole ++ t.fraction) : Plain c :=
    plain_of_isDigit (h.digits c hc)
  have hpoint : ∀ c ∈ t.point, Plain c := by
    unfold point
    split
    · exact List.forall_mem_nil _
    · exact List.forall_mem_cons.2 ⟨by decide, fun c hc => hdigits c (List.mem_append_right _ hc)⟩
  have hpower : ∀ c ∈ t.power, Plain c := by
    unfold power
    cases hexponent : t.exponent with
    | none => exact List.forall_mem_nil _
    | some e =>
      have hsign : Plain (exponentSign e.1) := by
        cases e.1 with
        | false => decide
        | true => decide
      exact List.forall_mem_cons.2 ⟨by decide, List.forall_mem_cons.2
        ⟨hsign, fun c hc => plain_of_isDigit ((h.exponent e hexponent).2 c hc)⟩⟩
  exact List.forall_mem_append.2 ⟨fun c hc => hdigits c (List.mem_append_left _ hc),
    List.forall_mem_append.2 ⟨hpoint, hpower⟩⟩

theorem plain_float (x : Binary64) : ∀ c ∈ (x.write .document).toList, Plain c := by
  cases hnan : x.isNaN with
  | true =>
    rw [Binary64.write, hnan, if_pos rfl]
    exact plain_of_all rfl
  | false =>
    cases hinf : x.isInfinite with
    | true =>
      rw [Binary64.write, hnan, hinf, if_neg Bool.false_ne_true, if_pos rfl, toList_sign]
      exact plain_signed _ (plain_of_all rfl)
    | false =>
      obtain ⟨t, ht, hwrite, -⟩ := Binary64.exists_numberText hnan hinf
      rw [hwrite]
      exact plain_signed _ ht.plain

theorem plain_hex (width n : Nat) : ∀ c ∈ Text.hex width n, Plain c := by
  have hdigit : ∀ d, d < 16 → Plain (Text.hexDigit d) := by decide
  induction width generalizing n with
  | zero => exact List.forall_mem_nil _
  | succ width ih =>
    exact List.forall_mem_append.2 ⟨ih _,
      List.forall_mem_singleton.2 (hdigit _ (Nat.mod_lt n (by decide)))⟩

theorem plain_escapePoint (p : CodePoint) : ∀ c ∈ escapePoint p, Plain c := by
  have hback : Plain '\\' := by decide
  have hunit (n : Nat) : ∀ c ∈ '\\' :: 'u' :: Text.hex 4 n, Plain c :=
    List.forall_mem_cons.2 ⟨hback, List.forall_mem_cons.2 ⟨by decide, plain_hex 4 n⟩⟩
  cases p with
  | high n | low n => exact hunit _
  | char a =>
    unfold escapePoint
    dsimp only
    split
    · rename_i h
      obtain rfl | rfl := h
      · exact plain_of_all rfl
      · exact plain_of_all rfl
    split
    · exact plain_of_all rfl
    split
    · exact plain_of_all rfl
    split
    · exact plain_of_all rfl
    split
    · exact plain_of_all rfl
    split
    · exact plain_of_all rfl
    split
    · rename_i _ _ hreturn _ _ _ hplain
      exact List.forall_mem_singleton.2 ⟨Nat.lt_trans hplain.2 (by decide), hreturn⟩
    split
    · exact hunit _
    · exact List.forall_mem_append.2 ⟨hunit _, hunit _⟩

theorem plain_flatMap_escapePoint (s : Text) : ∀ c ∈ s.points.flatMap escapePoint, Plain c := by
  intro c hc
  obtain ⟨a, -, ha⟩ := List.mem_flatMap.1 hc
  exact plain_escapePoint a c ha

theorem plain_line (depth : Nat) : ∀ c ∈ line depth, Plain c :=
  List.forall_mem_cons.2 ⟨by decide, fun c hc => by
    rw [List.eq_of_mem_replicate hc]
    decide⟩

theorem plain_onLine (depth : Nat) {c : Char} (hc : Plain c) {cs : List Char}
    (hcs : ∀ c ∈ cs, Plain c) : ∀ b ∈ c :: (line depth ++ cs), Plain b :=
  List.forall_mem_cons.2 ⟨hc, List.forall_mem_append.2 ⟨plain_line depth, hcs⟩⟩

theorem plain_keyText (k : Text) : ∀ c ∈ keyText k, Plain c :=
  List.forall_mem_cons.2 ⟨by decide, List.forall_mem_append.2
    ⟨plain_flatMap_escapePoint k, plain_of_all rfl⟩⟩

theorem plain_itemsBehind (depth : Nat) {ps : List (List Char × Json)}
    (h : ∀ p ∈ ps, ∀ c ∈ p.1, Plain c) : ∀ c ∈ itemsBehind depth ps, Plain c := by
  intro c hc
  obtain ⟨p, hp, hc⟩ := List.mem_flatMap.1 hc
  exact plain_onLine depth (by decide) (h p hp) c hc

theorem plain_membersBehind (depth : Nat) {ps : List (Text × List Char × Json)}
    (h : ∀ p ∈ ps, ∀ c ∈ p.2.1, Plain c) : ∀ c ∈ membersBehind depth ps, Plain c := by
  intro c hc
  obtain ⟨p, hp, hc⟩ := List.mem_flatMap.1 hc
  exact plain_onLine depth (by decide)
    (List.forall_mem_append.2 ⟨plain_keyText p.1, h p hp⟩) c hc

theorem plain_arrayText (depth : Nat) {cs : List Char} {ps : List (List Char × Json)}
    (hcs : ∀ c ∈ cs, Plain c) (h : ∀ p ∈ ps, ∀ c ∈ p.1, Plain c) :
    ∀ c ∈ arrayText depth cs ps, Plain c := by
  simp only [arrayText, List.forall_mem_cons, List.forall_mem_append]
  exact ⟨by decide, plain_line _, hcs, plain_itemsBehind _ h, plain_line _, by decide,
    List.forall_mem_nil _⟩

theorem plain_objectText (depth : Nat) (k : Text) {cs : List Char}
    {ps : List (Text × List Char × Json)} (hcs : ∀ c ∈ cs, Plain c)
    (h : ∀ p ∈ ps, ∀ c ∈ p.2.1, Plain c) : ∀ c ∈ objectText depth k cs ps, Plain c := by
  simp only [objectText, List.forall_mem_cons, List.forall_mem_append]
  exact ⟨by decide, plain_line _, plain_keyText k, hcs, plain_membersBehind _ h, plain_line _,
    by decide, List.forall_mem_nil _⟩

theorem arrayText_map (depth : Nat) (f : Json → Json) (cs : List Char)
    (ps : List (List Char × Json)) :
    arrayText depth cs (ps.map fun p => (p.1, f p.2)) = arrayText depth cs ps := by
  rw [arrayText, itemsBehind, List.flatMap_map]
  rfl

theorem objectText_map (depth : Nat) (f : Json → Json) (k : Text) (cs : List Char)
    (ps : List (Text × List Char × Json)) :
    objectText depth k cs (ps.map fun p => (p.1, p.2.1, f p.2.2)) = objectText depth k cs ps := by
  rw [objectText, membersBehind, List.flatMap_map]
  rfl

theorem plain_document {a : Scalar} {t : String} (h : a.document? = some t) :
    ∀ c ∈ t.toList, Plain c := by
  cases a with
  | null =>
    cases h
    exact plain_of_all rfl
  | bool b =>
    cases h
    cases b with
    | false => exact plain_of_all rfl
    | true => exact plain_of_all rfl
  | int n =>
    simp only [Scalar.document?, Numeral.write?] at h
    split at h
    · cases h
      rw [toList_int]
      exact plain_signed _ fun c hc =>
        plain_of_isDigit (Nat.isDigit_of_mem_toDigits (by decide) (by decide) hc)
    · cases h
  | float x =>
    cases h
    exact plain_float x
  | text s =>
    cases h
    rw [escaped, String.toList_ofList, List.cons_append]
    exact List.forall_mem_cons.2 ⟨by decide, List.forall_mem_append.2
      ⟨plain_flatMap_escapePoint s, plain_of_all rfl⟩⟩

theorem read_of_readAs {cs : List Char} {j : Json} (h : ReadAs cs j) (hcs : ∀ c ∈ cs, Plain c) :
    read (cs.map .char) = .ok j := by
  have hread := h (2 * (cs.map CodePoint.char).length + 2) [] (fun _ hc => nomatch hc)
    (by rw [List.length_map]; omega)
  rw [List.append_nil] at hread
  obtain ⟨c, behind, hcons, hspace, -⟩ := h.exists_cons
  have hskip : skipSpace (cs.map .char) = cs.map .char := by
    rw [hcons]
    exact List.dropWhile_cons_of_neg (by rw [hspace]; exact Bool.false_ne_true)
  have hwhole : readWhole (cs.map .char) = .ok j := by
    rw [readWhole, hskip, hread]
    rfl
  unfold read
  split
  · rename_i heq
    obtain ⟨d, hd, hmark⟩ := List.mem_map.1 (heq ▸ List.mem_cons_self)
    cases hmark
    exact absurd (hcs _ hd) (by decide)
  · rw [hwhole]
    rfl

end Json

namespace Json

def members (ps : List (Text × List Char × Json)) : List (Text × Json) :=
  ps.map fun p => (p.1, p.2.2)

end Json

namespace Unfolding

inductive Distinct : Unfolding → Prop where
  | scalar (a : Scalar) : Distinct (.scalar a)
  | back (which : Container) (up : Nat) : Distinct (.back which up)
  | array {items : List Unfolding} (h : ∀ t ∈ items, Distinct t) : Distinct (.array items)
  | object {entries : List (Text × Unfolding)} (hkeys : (Entries.keys entries).Nodup)
    (h : ∀ e ∈ entries, Distinct e.2) : Distinct (.object entries)

structure Written (t : Unfolding) (cs : List Char) (j : Json) : Prop where
  tree : t = j.unfolding
  read : Json.ReadAs cs j.reread
  plain : ∀ c ∈ cs, Json.Plain c

/-- What writing the value appends to a text is such a piece. -/
def Appends (t : Unfolding) : Prop :=
  ∀ (depth : Nat) (out lead text : String), writeAt depth out lead t = .ok text →
    ∃ j cs, t.Written cs j ∧ text.toList = out.toList ++ (lead.toList ++ cs)

theorem toList_newLine (depth : Nat) : (newLine depth).toList = Json.line depth := by
  simp only [newLine, String.toList_append, String.toList_ofList]
  rfl

theorem exists_items {ts : List Unfolding} (hts : ∀ t ∈ ts, t.Appends) {depth : Nat}
    {out text : String} (h : writeItems depth out ts = .ok text) :
    ∃ ps : List (List Char × Json), ts = Json.unfoldings (ps.map Prod.snd) ∧
      text.toList = out.toList ++ Json.itemsBehind depth ps ∧
      ∀ p ∈ ps, Json.ReadAs p.1 p.2.reread ∧ ∀ c ∈ p.1, Json.Plain c := by
  induction ts generalizing out with
  | nil =>
    cases h
    exact ⟨[], rfl, (List.append_nil _).symm, List.forall_mem_nil _⟩
  | cons t ts ih =>
    obtain ⟨ht, hts⟩ := List.forall_mem_cons.1 hts
    obtain ⟨out₁, h₁, h₂⟩ := bind_ok_iff.1 h
    obtain ⟨j, cs, hwritten, hout⟩ := ht _ _ _ _ h₁
    obtain ⟨ps, rfl, htext, hps⟩ := ih hts h₂
    refine ⟨(cs, j) :: ps, ?_, ?_, List.forall_mem_cons.2 ⟨⟨hwritten.read, hwritten.plain⟩, hps⟩⟩
    · rw [hwritten.tree]
      rfl
    · rw [htext, hout, String.toList_append, toList_newLine]
      simp [Json.itemsBehind]

theorem exists_members {es : List (Text × Unfolding)} (hes : ∀ e ∈ es, e.2.Appends)
    {depth : Nat} {out text : String} (h : writeMembers depth out es = .ok text) :
    ∃ ps : List (Text × List Char × Json),
      es = Json.memberUnfoldings (Json.members ps) ∧
      text.toList = out.toList ++ Json.membersBehind depth ps ∧
      ∀ p ∈ ps, Json.ReadAs p.2.1 p.2.2.reread ∧ ∀ c ∈ p.2.1, Json.Plain c := by
  induction es generalizing out with
  | nil =>
    cases h
    exact ⟨[], rfl, (List.append_nil _).symm, List.forall_mem_nil _⟩
  | cons e es ih =>
    obtain ⟨k, t⟩ := e
    obtain ⟨ht, hes⟩ := List.forall_mem_cons.1 hes
    obtain ⟨out₁, h₁, h₂⟩ := bind_ok_iff.1 h
    obtain ⟨j, cs, hwritten, hout⟩ := ht _ _ _ _ h₁
    obtain ⟨ps, rfl, htext, hps⟩ := ih hes h₂
    refine ⟨(k, cs, j) :: ps, ?_, ?_,
      List.forall_mem_cons.2 ⟨⟨hwritten.read, hwritten.plain⟩, hps⟩⟩
    · rw [show t = j.unfolding from hwritten.tree]
      rfl
    · rw [htext, hout]
      simp [Json.membersBehind, Json.keyText, Json.escaped, toList_newLine]

theorem appends_array {ts : List Unfolding} (hts : ∀ t ∈ ts, t.Appends) :
    (array ts).Appends := by
  intro depth out lead text h
  cases ts with
  | nil =>
    cases h
    refine ⟨.array [], _, ⟨rfl, Json.readAs_emptyArray, Json.plain_of_all rfl⟩, ?_⟩
    rw [String.toList_append, String.toList_append, List.append_assoc]
    rfl
  | cons t ts =>
    obtain ⟨ht, hts⟩ := List.forall_mem_cons.1 hts
    obtain ⟨out₁, hfirst, hbehind⟩ := bind_ok_iff.1 h
    obtain ⟨out₂, hitems, hend⟩ := bind_ok_iff.1 hbehind
    cases hend
    obtain ⟨j, cs, hwritten, hout₁⟩ := ht _ _ _ _ hfirst
    obtain ⟨ps, rfl, hout₂, hps⟩ := exists_items hts hitems
    have hread : Json.ReadAs
        (Json.arrayText depth cs (ps.map fun p => (p.1, p.2.reread))) _ :=
      Json.readAs_array depth (p := (cs, j.reread)) hwritten.read
        (List.forall_mem_map.2 fun p hp => (hps p hp).1)
    rw [Json.arrayText_map, List.map_map] at hread
    refine ⟨.array (j :: ps.map Prod.snd), Json.arrayText depth cs ps, ⟨?_, ?_, ?_⟩, ?_⟩
    · rw [show t = j.unfolding from hwritten.tree]
      rfl
    · rw [Json.reread, Json.itemsReread_eq, List.map_cons, List.map_map]
      exact hread
    · exact Json.plain_arrayText depth hwritten.plain fun p hp => (hps p hp).2
    · rw [String.toList_append, String.toList_append, hout₂, hout₁]
      simp [Json.arrayText, toList_newLine]

theorem appends_object {es : List (Text × Unfolding)} (hes : ∀ e ∈ es, e.2.Appends) :
    (object es).Appends := by
  intro depth out lead text h
  cases es with
  | nil =>
    cases h
    refine ⟨.object [], _, ⟨rfl, Json.readAs_emptyObject, Json.plain_of_all rfl⟩, ?_⟩
    rw [String.toList_append, String.toList_append, List.append_assoc]
    rfl
  | cons e es =>
    obtain ⟨k, t⟩ := e
    obtain ⟨ht, hes⟩ := List.forall_mem_cons.1 hes
    obtain ⟨out₁, hfirst, hbehind⟩ := bind_ok_iff.1 h
    obtain ⟨out₂, hmembers, hend⟩ := bind_ok_iff.1 hbehind
    cases hend
    obtain ⟨j, cs, hwritten, hout₁⟩ := ht _ _ _ _ hfirst
    obtain ⟨ps, rfl, hout₂, hps⟩ := exists_members hes hmembers
    have hread : Json.ReadAs
        (Json.objectText depth k cs (ps.map fun p => (p.1, p.2.1, p.2.2.reread))) _ :=
      Json.readAs_object depth (p := (k, cs, j.reread)) hwritten.read
        (List.forall_mem_map.2 fun p hp => (hps p hp).1)
    rw [Json.objectText_map] at hread
    refine ⟨.object ((k, j) :: Json.members ps), Json.objectText depth k cs ps, ⟨?_, ?_, ?_⟩, ?_⟩
    · rw [show t = j.unfolding from hwritten.tree]
      rfl
    · rw [Json.membersRead, List.map_cons, List.map_map] at hread
      rw [Json.reread, Json.membersReread_eq, List.map_cons, Json.members, List.map_map]
      exact hread
    · exact Json.plain_objectText depth k hwritten.plain fun p hp => (hps p hp).2
    · rw [String.toList_append, String.toList_append, hout₂, hout₁]
      simp [Json.objectText, Json.keyText, Json.escaped, toList_newLine]

theorem Distinct.appends {t : Unfolding} (ht : t.Distinct) : t.Appends := by
  induction ht with
  | scalar a =>
    intro depth out lead text h
    rw [writeAt] at h
    cases ha : a.document? with
    | none =>
      rw [ha] at h
      cases h
    | some text =>
      rw [ha] at h
      cases h
      refine ⟨.scalar a, text.toList, ⟨rfl, Json.readAs_scalar ha, Json.plain_document ha⟩, ?_⟩
      rw [String.toList_append, String.toList_append, List.append_assoc]
  | back which up =>
    intro depth out lead text h
    cases h
  | array _ ih => exact appends_array ih
  | object _ _ ih => exact appends_object ih

theorem read_write {t : Unfolding} (ht : t.Distinct) {text : String} (h : t.write = .ok text) :
    ∃ j : Json, t = j.unfolding ∧ Json.read (text.toList.map .char) = .ok j.reread ∧
      ∀ c ∈ text.toList, Json.Plain c := by
  obtain ⟨j, cs, hwritten, htext⟩ := ht.appends _ _ _ _ h
  rw [String.toList_empty, List.nil_append, List.nil_append] at htext
  rw [htext]
  exact ⟨j, hwritten.tree, Json.read_of_readAs hwritten.read hwritten.plain, hwritten.plain⟩

end Unfolding

theorem Json.reread_eq {j : Json} (hd : j.unfolding.Distinct)
    (hp : j.unfolding.EveryText Text.Unpaired) : j.reread = j.readBack := by
  induction j using induct with
  | scalar a =>
    cases hp with
    | scalar h =>
      cases a with
      | text s => exact congrArg (fun s => Json.scalar (.text s)) (h s rfl).joined
      | _ => rfl
  | array items ih =>
    rw [unfolding, unfoldings_eq] at hd hp
    cases hd with
    | array hd =>
      cases hp with
      | array hp =>
        rw [List.forall_mem_map] at hd hp
        rw [reread, readBack, itemsReread_eq, itemsReadBack_eq,
          List.map_congr_left fun j hj => ih j hj (hd j hj) (hp j hj)]
  | object entries ih =>
    rw [unfolding] at hd hp
    cases hd with
    | object hkeys hd =>
      cases hp with
      | object hunpaired hp =>
        rw [keys_memberUnfoldings] at hkeys hunpaired
        rw [memberUnfoldings_eq, List.forall_mem_map] at hd hp
        have hmembers : membersReread entries = membersReadBack entries := by
          rw [membersReread_eq, membersReadBack_eq]
          refine List.map_congr_left fun e he => ?_
          rw [ih e he (hd e he) (hp e he), (hunpaired e.1 (List.mem_map_of_mem he)).joined]
        rw [reread, readBack, hmembers, Entries.ofPairs_of_nodup]
        rwa [keys_membersReadBack]

end NodeWalk
