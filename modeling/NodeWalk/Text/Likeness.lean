set_option autoImplicit false

/-!
# Likeness of texts

How alike two texts are, to suggest what was meant by an unknown name. The
longest run of characters that both hold is set against each other, the first
such run where several are as long; what stands before it and what stands behind
it is compared in the same way. Texts are alike when the characters in the runs
are at least three fifths of all their characters.
-/
namespace NodeWalk.Text

def sharedStart : List Char → List Char → Nat
  | a :: as, b :: bs => if a = b then sharedStart as bs + 1 else 0
  | _, _ => 0

/-- A run of `length` characters that stands in both of two texts. -/
structure Run where
  left : Nat
  right : Nat
  length : Nat
deriving DecidableEq

/-- The longest run, the first of those in the left text, then in the right. -/
def longestRun (as bs : List Char) : Run :=
  let runs := (List.range as.length).flatMap fun i =>
    (List.range bs.length).map fun j => Run.mk i j (sharedStart (as.drop i) (bs.drop j))
  runs.foldl (fun best r => if best.length < r.length then r else best) ⟨0, 0, 0⟩

/-- How many characters stand in the runs that are set against each other. -/
def sharedLength (as bs : List Char) : Nat :=
  match longestRun as bs with
  | ⟨left, right, length⟩ =>
    if _h : 0 < length ∧ left < as.length then
      sharedLength (as.take left) (bs.take right) + length
        + sharedLength (as.drop (left + length)) (bs.drop (right + length))
    else 0
termination_by as.length
decreasing_by
  · simp only [List.length_take]; omega
  · simp only [List.length_drop]; omega

structure Likeness where
  shared : Nat
  total : Nat
deriving DecidableEq

namespace Likeness

/-- No run is longer than the shorter text, so a text that is far longer than the
other is not compared. -/
def ofTexts (s t : String) : Likeness :=
  let as := s.toList
  let bs := t.toList
  let total := as.length + bs.length
  ⟨if 10 * min as.length bs.length < 3 * total then 0 else sharedLength as bs, total⟩

/-- Twice the shared characters are at least three fifths of all. -/
def isClose (l : Likeness) : Bool := 3 * l.total ≤ 10 * l.shared

def less (l m : Likeness) : Bool := l.shared * m.total < m.shared * l.total

end Likeness

/-- The three candidates that are most like a name, among those that are close to
it, in alphabetical order; of two that are as like it the later one is preferred. -/
def closest (name : String) (candidates : List String) : List String :=
  let rated := candidates.map fun c => (c, Likeness.ofTexts c name)
  let better (a b : String × Likeness) : Bool := b.2.less a.2 || (!a.2.less b.2 && b.1 < a.1)
  let best := ((rated.filter fun r => r.2.isClose).mergeSort better).take 3
  (best.map (·.1)).mergeSort fun s t => s ≤ t

end NodeWalk.Text
