import NodeWalk.Proofs.DocumentLaws
import NodeWalk.Proofs.WriteElsewhere

set_option autoImplicit false

/-!
# How pointers fail

A pointer that leads nowhere fails with a fault of its path, and an item is named by its
decimal numeral alone. Both hold but for stray tokens: an array takes every row of digits
for an index, and only reading it shows whether it has a value. Digits of another script
name an item that has a numeral already; a superscript, or a row of too many digits, ends
in a fault that is none of the path.
-/
namespace NodeWalk

namespace Numeral

theorem Mark.lt_of_ofPoint {c : CodePoint} {d : Nat} (h : Mark.ofPoint c = .digit d) :
    d < 10 := by
  unfold Mark.ofPoint at h
  split at h
  · cases h
  · split at h
    · split at h
      · rename_i hdigit
        cases h
        cases c with
        | char c =>
          have hb := Text.digit_bounds hdigit
          rw [CodePoint.toNat_char]
          omega
        | high n | low n => cases hdigit
      · split at h
        · cases h
        · split at h
          · cases h
          · split at h <;> cases h
    · split at h
      · cases h
      · split at h
        · rename_i hd
          cases h
          exact Text.digitValue?_lt hd
        · cases h

theorem mem_of_digitRun {ms rest : List Mark} {ds : List Nat}
    (h : digitRun ms = some (ds, rest)) : ∀ d ∈ ds, Mark.digit d ∈ ms := by
  fun_induction digitRun ms generalizing ds rest with
  | case1 d e more ih =>
    obtain ⟨r, hr, heq⟩ := Option.map_eq_some_iff.1 h
    cases heq
    intro x hx
    rcases List.mem_cons.1 hx with rfl | hx
    · exact List.mem_cons_self
    · exact List.mem_cons_of_mem _ (List.mem_cons_of_mem _ (ih hr x hx))
  | case2 => cases h
  | case3 d e more _ _ ih =>
    obtain ⟨r, hr, heq⟩ := Option.map_eq_some_iff.1 h
    cases heq
    intro x hx
    rcases List.mem_cons.1 hx with rfl | hx
    · exact List.mem_cons_self
    · exact List.mem_cons_of_mem _ (ih hr x hx)
  | case4 d more _ =>
    cases h
    intro x hx
    rw [List.mem_singleton.1 hx]
    exact List.mem_cons_self
  | case5 => cases h

theorem mem_of_mem_signed {ms : List Mark} {m : Mark} (h : m ∈ (signed ms).2) : m ∈ ms := by
  unfold signed at h
  split at h
  · exact List.mem_cons_of_mem _ h
  · exact List.mem_cons_of_mem _ h
  · exact h

theorem writable_of_read {s : Text} {n : Int} (h : read s = .ok n) : writable n = true := by
  unfold read at h
  split at h
  rename_i negative rest hsigned
  split at h
  · cases h
  · rename_i digits unread hrun
    have hlt : ∀ d ∈ digits, d < 10 := by
      intro d hd
      have hmem := mem_of_digitRun hrun d hd
      have hrest : rest = (signed ((s.points.map Mark.ofPoint).dropWhile (· == .blank))).2 :=
        (congrArg Prod.snd hsigned).symm
      rw [hrest] at hmem
      have hmark := (List.dropWhile_sublist _).subset (mem_of_mem_signed hmem)
      obtain ⟨c, -, hc⟩ := List.mem_map.1 hmark
      exact Mark.lt_of_ofPoint hc
    split at h
    · cases h
    · rename_i hlength
      split at h
      · refine writable_of_digits hlt (Nat.le_of_not_lt hlength) ?_
        cases h
        split <;> simp
      · cases h

end Numeral

namespace Document

variable {s t : Store} {h : Objects} {path last token : Text} {tokens : List Text}
  {v w x : Value} {a : Addr} {f : Fault} {append : Bool} {length i : Nat}

/-- An array takes the token for an index, but it is no numeral that can be read in the
seven-bit character set. -/
structure Stray (token : Text) : Prop where
  index : isIndex token = true
  unusual : Ascii token → Numeral.maxDigits < token.points.length

theorem names_of_not_stray (hindex : isIndex token = true) (hstray : ¬ Stray token) :
    ∃ i : Nat, Names token i ∧ token = toString i := by
  have hascii : Ascii token ∧ ¬ Numeral.maxDigits < token.points.length := by
    by_contra hno
    exact hstray ⟨hindex, fun ha => by_contra fun hlt => hno ⟨ha, hlt⟩⟩
  obtain ⟨hne, hdigits, -⟩ := isIndex_iff.1 hindex
  have hd : ∀ c ∈ token.points, c.isDigit = true := by
    intro c hc
    rw [← Text.isDigit_of_lt (hascii.1 c hc)]
    exact hdigits c hc
  obtain ⟨cs, hcs, hchars⟩ := Text.exists_chars hd
  obtain rfl : token = ⟨cs.map .char⟩ := Text.ext hcs
  have hread := Numeral.read_digits (fun hnil => hne (by rw [hnil]; rfl)) hchars
  rw [if_neg (List.length_map CodePoint.char ▸ hascii.2)] at hread
  have hnames : Names ⟨cs.map .char⟩ _ := ⟨hindex, hread⟩
  exact ⟨_, hnames, eq_toString_of_names hnames hascii.1⟩

/-- The items of an array have one name each: their numeral. A write may call the place
behind the last a dash, and stray tokens stand apart. -/
theorem eq_toString_of_index (hi : index path length token append = .ok i) :
    token = toString i ∨ (append = true ∧ token = "-" ∧ i = length) ∨ Stray token := by
  obtain hdash | ⟨hnames, -⟩ := index_ok_iff.1 hi
  · exact .inr (.inl hdash)
  · by_cases hstray : Stray token
    · exact .inr (.inr hstray)
    · obtain ⟨j, hj, htoken⟩ := names_of_not_stray hnames.index hstray
      rw [hnames.unique hj]
      exact .inl htoken

/-- How a pointer fails: with a fault of its path, or at a stray token that cannot be
read. -/
inductive Refused (path : Text) (met : Text → Prop) : Fault → Prop where
  | path {reason : PathReason} (worded : reason.text?.isSome = true) :
    Refused path met (.path path reason)
  | notNumeral {token : Text} (here : met token) (stray : Stray token) :
    Refused path met (.notNumeral token)
  | tooLong {token : Text} (digits : Nat) (here : met token) (stray : Stray token) :
    Refused path met (.numeralTooLong digits)

namespace Refused

variable {P Q : Text → Prop}

theorem mono (hf : Refused path P f) (himp : ∀ q, P q → Q q) : Refused path Q f := by
  cases hf with
  | path worded => exact .path worded
  | notNumeral here stray => exact .notNumeral (himp _ here) stray
  | tooLong digits here stray => exact .tooLong digits (himp _ here) stray

theorem settled_eq (hf : Refused path P f) : f.settled = f := by
  cases hf with
  | path worded =>
    obtain ⟨text, htext⟩ := Option.isSome_iff_exists.1 worded
    simp [Fault.settled, Fault.text?, htext]
  | notNumeral => rfl
  | tooLong => rfl

end Refused

theorem refused_of_index (hf : index path length token append = .error f) :
    Refused path (fun q => q = token) f := by
  unfold index at hf
  split at hf
  · cases hf
  · split at hf
    · cases hf
      exact .path rfl
    · rename_i hindex
      rw [Bool.not_eq_true, Bool.not_eq_false'] at hindex
      cases hread : Numeral.read token with
      | error refusal =>
        have hstray : Stray token := by
          by_contra hstray
          obtain ⟨m, hm, -⟩ := names_of_not_stray hindex hstray
          cases hread.symm.trans hm.read
        rw [hread] at hf
        cases refusal with
        | malformed =>
          cases hf
          exact .notNumeral rfl hstray
        | tooLong digits =>
          cases hf
          exact .tooLong digits rfl hstray
      | ok n =>
        rw [hread] at hf
        dsimp only at hf
        by_cases hlt : n < (if append then length + 1 else length : Nat)
        · rw [if_pos hlt] at hf
          cases hf
        · rw [if_neg hlt] at hf
          cases hf
          have hn := Numeral.writable_of_read hread
          exact .path (by simp [PathReason.text?, Numeral.write?, hn])

theorem refused_of_slot {c : Cell} (hf : c.slot path token append = .error f) :
    Refused path (fun q => q = token) f ∧ ∃ items, c = .array items := by
  cases c with
  | object entries => cases hf
  | array items =>
    rw [Cell.slot] at hf
    cases hi : index path items.length token append with
    | error g =>
      rw [hi] at hf
      cases hf
      exact ⟨refused_of_index hi, items, rfl⟩
    | ok i =>
      rw [hi] at hf
      cases hf

/-- The token is one that the tokens before it lead to an array with. -/
def Meets (h : Objects) (path : Text) (tokens : List Text) (v : Value) (token : Text) :
    Prop :=
  ∃ way rest a items, tokens = way ++ token :: rest ∧ walk h path way v = .ok (.ref a) ∧
    h.cell a = .array items

theorem Meets.head {items : List Value} (hc : h.cell a = .array items) (tokens : List Text) :
    Meets h path (token :: tokens) (.ref a) token :=
  ⟨[], tokens, a, items, rfl, rfl, hc⟩

theorem Meets.below {p : Slot} {q : Text} (hq : Meets h path tokens x q)
    (hp : (h.cell a).slot path token false = .ok p) (hx : (h.cell a).at? p = some x) :
    Meets h path (token :: tokens) (.ref a) q := by
  obtain ⟨way, rest, b, items, rfl, hw, hc⟩ := hq
  exact ⟨token :: way, rest, b, items, rfl, (walk_step hp hx way).trans hw, hc⟩

theorem refused_here (hf : (h.cell a).slot path token append = .error f) (tokens : List Text) :
    Refused path (Meets h path (token :: tokens) (.ref a)) f := by
  obtain ⟨hrefused, items, hc⟩ := refused_of_slot hf
  refine hrefused.mono ?_
  rintro q rfl
  exact .head hc tokens

theorem refused_of_walk (hf : walk h path tokens v = .error f) :
    Refused path (Meets h path tokens v) f := by
  induction tokens generalizing v with
  | nil => cases hf
  | cons token tokens ih =>
    cases v with
    | scalar b =>
      cases hf
      exact .path rfl
    | ref a =>
      rw [walk_ref] at hf
      cases hp : (h.cell a).slot path token false with
      | error g =>
        rw [hp] at hf
        cases hf
        exact refused_here hp tokens
      | ok p =>
        rw [hp] at hf
        dsimp only at hf
        cases hx : (h.cell a).at? p with
        | none =>
          rw [hx] at hf
          cases hf
          exact .path rfl
        | some x =>
          rw [hx] at hf
          exact (ih hf).mono fun q hq => hq.below hp hx

theorem refused_of_site (hf : site h path last tokens v = .error f) :
    Refused path (Meets h path (tokens ++ [last]) v) f := by
  induction tokens generalizing v with
  | nil =>
    cases v with
    | scalar b =>
      cases hf
      exact .path rfl
    | ref a =>
      rw [site] at hf
      cases hp : (h.cell a).slot path last true with
      | error g =>
        rw [hp] at hf
        cases hf
        exact refused_here hp []
      | ok p =>
        rw [hp] at hf
        cases hf
  | cons token tokens ih =>
    cases v with
    | scalar b =>
      cases hf
      exact .path rfl
    | ref a =>
      rw [site] at hf
      cases hp : (h.cell a).slot path token false with
      | error g =>
        rw [hp] at hf
        cases hf
        exact refused_here hp (tokens ++ [last])
      | ok p =>
        rw [hp] at hf
        dsimp only at hf
        cases hx : (h.cell a).at? p with
        | none =>
          rw [hx] at hf
          cases hf
        | some x =>
          rw [hx] at hf
          exact (ih hf).mono fun q hq => hq.below hp hx

/-- The pointer applies the token to an array of the document. -/
def Applies (s : Store) (path token : Text) : Prop :=
  ∃ tokens, Pointer.tokens path = .ok tokens ∧ Meets s.objects path tokens s.root token

theorem refused_of_tokens {P : Text → Prop} (hf : Pointer.tokens path = .error f) :
    Refused path P f := by
  unfold Pointer.tokens at hf
  split at hf
  · cases hf
  · cases hf
  · cases hf
    exact .path rfl

theorem refused_of_get (hf : get s.objects s.root (.text path) = .error f) :
    Refused path (Applies s path) f := by
  rw [get_text] at hf
  cases htokens : Pointer.tokens path with
  | error g =>
    rw [htokens] at hf
    cases hf
    exact refused_of_tokens htokens
  | ok tokens =>
    rw [htokens] at hf
    exact (refused_of_walk hf).mono fun q hq => ⟨tokens, htokens, hq⟩

theorem refused_of_set (hf : (set (.text path) w).run s = (.error f, t)) :
    Refused path (Applies s path) f ∨ f = .integerTooLong ∧ ¬ s.objects.Writable w := by
  cases htokens : Pointer.tokens path with
  | error g =>
    rw [run_set_malformed htokens] at hf
    cases hf
    have hrefused : Refused path (Applies s path) g := refused_of_tokens htokens
    rw [hrefused.settled_eq]
    exact .inl hrefused
  | ok all =>
    rcases List.eq_nil_or_concat all with rfl | ⟨tokens, last, rfl⟩
    · rw [run_set_root htokens] at hf
      cases hf
    · rw [List.concat_eq_append] at htokens
      rw [run_set_place htokens] at hf
      cases hp : site s.objects path last tokens s.root with
      | error g =>
        rw [hp] at hf
        cases hf
        have hrefused : Refused path (Applies s path) g :=
          (refused_of_site hp).mono fun q hq => ⟨_, htokens, hq⟩
        rw [hrefused.settled_eq]
        exact .inl hrefused
      | ok p =>
        rw [hp] at hf
        dsimp only at hf
        cases hshown : (p.write w s.objects).shown? w with
        | some text =>
          rw [hshown] at hf
          cases hf
        | none =>
          rw [hshown] at hf
          cases hf
          refine .inr ⟨rfl, fun hw => ?_⟩
          have hsome := Objects.isSome_shown?_of_writable (p.every_write hw)
          rw [hshown] at hsome
          cases hsome

/-- Reading and writing at a pointer fail with a fault of the path, and two tokens that
select one item of an array are the same. What stands apart are stray tokens, the dash
behind the last item, and values that cannot be reported. -/
theorem pointer_fails (s : Store) (path : Text) (w : Value) :
    (∀ f, get s.objects s.root (.text path) = .error f → Refused path (Applies s path) f) ∧
    (∀ f t, (set (.text path) w).run s = (.error f, t) →
      Refused path (Applies s path) f ∨ f = .integerTooLong ∧ ¬ s.objects.Writable w) ∧
    (∀ length token append i, index path length token append = .ok i →
      token = toString i ∨ (append = true ∧ token = "-" ∧ i = length) ∨ Stray token) ∧
    ∀ length token token' append i, index path length token append = .ok i →
      index path length token' append = .ok i → token = token' ∨
        (append = true ∧ (token = "-" ∨ token' = "-")) ∨ Stray token ∨ Stray token' := by
  refine ⟨fun f => refused_of_get, fun f t => refused_of_set,
    fun length token append i => eq_toString_of_index, ?_⟩
  intro length token token' append i hi hi'
  obtain htoken | ⟨happend, hdash, -⟩ | hstray := eq_toString_of_index hi
  · obtain htoken' | ⟨happend, hdash, -⟩ | hstray := eq_toString_of_index hi'
    · exact .inl (htoken.trans htoken'.symm)
    · exact .inr (.inl ⟨happend, .inr hdash⟩)
    · exact .inr (.inr (.inr hstray))
  · exact .inr (.inl ⟨happend, .inl hdash⟩)
  · exact .inr (.inr (.inl hstray))

/-- A superscript has no value, and an Arabic digit names an item that has a name. -/
theorem get_of_stray :
    let s : Store := ⟨⟨#[.array [.int 10, .int 20], .object [("a", .ref 0)]], 1⟩, .ref 1, #[]⟩
    get s.objects s.root (.text "/a/²") = .error (.notNumeral "²") ∧
      (Fault.notNumeral "²").name? = none ∧
      get s.objects s.root (.text "/a/١") = .ok (.int 20) ∧
      get s.objects s.root (.text "/a/1") = .ok (.int 20) ∧ "١" ≠ "1" := by
  intro s
  refine ⟨rfl, rfl, ok_of_toOption (by decide +kernel), ok_of_toOption (by decide +kernel), ?_⟩
  decide

end Document
end NodeWalk
