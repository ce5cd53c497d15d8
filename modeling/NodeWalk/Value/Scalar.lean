import NodeWalk.Number.Notation
import NodeWalk.Text.Numeral
import NodeWalk.Text.Quoted
import NodeWalk.Value.Kind

set_option autoImplicit false

/-!
# Scalars

Values without parts. A truth value counts as the integer 0 or 1. `agree` is
equality by value, under which what is not a number equals nothing; `same` also
holds of one and the same object. A scalar has two shown forms: `shown?` as
inside a container and `plain?` where a text stands for itself. Neither exists
for an integer that is too long.
-/
namespace NodeWalk

inductive Scalar where
  | null
  | bool (b : Bool)
  | int (n : Int)
  | float (x : Binary64)
  | text (s : Text)
deriving DecidableEq, Inhabited

inductive Number where
  | int (n : Int)
  | float (x : Binary64)
deriving DecidableEq

namespace Number

def position? : Number → Option Position
  | .int n => some (.ofInt n)
  | .float x => x.position?

/-- How two numbers compare, unless one of them is not a number. -/
def compare? : Number → Number → Option Ordering
  | .int m, .int n => some (compare m n)
  | x, y => do some (Position.compare (← x.position?) (← y.position?))

end Number

namespace Scalar

def kind : Scalar → Kind
  | .null => .null
  | .bool _ => .bool
  | .int _ => .int
  | .float _ => .float
  | .text _ => .text

def number? : Scalar → Option Number
  | .bool b => some (.int (if b then 1 else 0))
  | .int n => some (.int n)
  | .float x => some (.float x)
  | _ => none

def isTrue : Scalar → Bool
  | .null => false
  | .bool b => b
  | .int n => n != 0
  | .float x => !x.isZero
  | .text s => s != ""

def agree (s t : Scalar) : Bool :=
  match s.number?, t.number? with
  | some x, some y => x.compare? y == some .eq
  | none, none => s = t
  | _, _ => false

def same (s t : Scalar) : Bool := s = t || agree s t

@[simp] theorem same_refl (s : Scalar) : s.same s = true := by simp [same]

def shown? : Scalar → Option String
  | .null => some "None"
  | .bool b => some (if b then "True" else "False")
  | .int n => Numeral.write? n
  | .float x => some (x.write .shown)
  | .text s => some (Text.quoted s)

def plain? : Scalar → Option Text
  | .text s => some s
  | s => s.shown?.map .ofString

end Scalar
end NodeWalk
