import NodeWalk.Graph.IntegerText
import NodeWalk.Graph.Violation

set_option autoImplicit false

/-!
# Integer fields

A field that must hold an integer takes an integer, a truth value, a number with
no fractional part between -2^63 and 2^63, or the text of an integer.
-/
namespace NodeWalk.IntegerField

def ofText (s : Text) : Except Rule Int :=
  if !s.isWhole then .error .unicodeText
  else match IntegerText.read s with
  | .ok n => .ok n
  | .error .malformed => .error .integerText
  | .error (.tooLong _) => .error .integerSize

/-- A number is taken only below this size; integers and texts may go beyond. -/
def bound : Int := Nat.pow 2 63

def ofFloat (x : Binary64) : Except Rule Int :=
  match x.position? with
  | some (.finite _) =>
    match x.toInt? with
    | none => .error .wholeNumber
    | some n => if -bound < n ∧ n < bound then .ok n else .error .integerSize
  | _ => .error .finiteNumber

def ofValue : Value → Except Rule Int
  | .bool b => .ok (if b then 1 else 0)
  | .int n => .ok n
  | .float x => ofFloat x
  | .text s => ofText s
  | _ => .error .integer

end NodeWalk.IntegerField
