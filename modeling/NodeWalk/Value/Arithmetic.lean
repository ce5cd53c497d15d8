import NodeWalk.Fault
import NodeWalk.Value.Objects

set_option autoImplicit false

/-!
# Arithmetic on values

Sums, differences and products of numbers: integers are exact, and an integer
that meets a floating-point number becomes one first. A sum also joins two texts
or two arrays, and a product repeats a text or an array by an integer on either
side. A new array shares its items with the old ones.
-/
namespace NodeWalk

namespace Operator

def onInts : Operator → Int → Int → Int
  | .add, m, n => m + n
  | .sub, m, n => m - n
  | .mul, m, n => m * n

def onFloats : Operator → Binary64 → Binary64 → Nat → Binary64
  | .add => Binary64.add
  | .sub => Binary64.sub
  | .mul => Binary64.mul

end Operator

def Number.toBinary64 : Number → Except Fault Binary64
  | .int n => match Binary64.ofInt? n with
    | some x => .ok x
    | none => .error .beyondFloats
  | .float x => .ok x

/-- The greatest length of a text, and the greatest repeat count. -/
def maxLength : Int := Nat.pow 2 63 - 1

/-- The greatest length of an array, whose items take eight octets each. -/
def maxItems : Int := Nat.pow 2 60 - 1

namespace Objects

abbrev Computed := Except Fault (Value × Objects)

def onNumbers (h : Objects) (op : Operator) : Number → Number → Computed
  | .int m, .int n => .ok (.int (op.onInts m n), h)
  | x, y => do
    let x ← x.toBinary64
    let y ← y.toBinary64
    let (mark, h) := h.freshMark
    .ok (.float (op.onFloats x y mark), h)

def number? : Value → Option Number
  | .scalar s => s.number?
  | .ref _ => none

inductive Sequence where
  | text (s : Text)
  | array (items : List Value)

def sequence? (h : Objects) (v : Value) : Option Sequence :=
  match v with
  | .text s => some (.text s)
  | v => (h.items? v).map .array

def repeatText (n : Nat) (s : Text) : Text := ⟨(List.replicate n s.points).flatten⟩

def repeated (h : Objects) (seq : Sequence) (count : Value) : Computed :=
  match number? count with
  | some (.int n) =>
    if n < -maxLength - 1 ∨ maxLength < n then .error .countTooLarge
    else match seq with
      | .text s =>
        if maxLength < s.length * n then .error .textTooLong
        else .ok (.text (if s = "" then "" else repeatText n.toNat s), h)
      | .array items =>
        if maxItems < items.length * n then .error .outOfMemory
        else .ok (h.newArray
          (if items.isEmpty then [] else (List.replicate n.toNat items).flatten))
  | _ => .error (.notCount (h.kind count))

def joined (h : Objects) (v w : Value) : Computed :=
  match h.sequence? v, h.sequence? w with
  | some (.text s), some (.text t) =>
    if maxLength < s.length + t.length then .error .joinedTooLong
    else .ok (.text (s ++ t), h)
  | some (.array vs), some (.array ws) =>
    if maxItems < vs.length + ws.length then .error .outOfMemory
    else .ok (h.newArray (vs ++ ws))
  | some _, _ => .error (.notJoined (h.kind v) (h.kind w))
  | none, _ => .error (.operands .add (h.kind v) (h.kind w))

def add (h : Objects) (v w : Value) : Computed :=
  match number? v, number? w with
  | some x, some y => h.onNumbers .add x y
  | _, _ => h.joined v w

def sub (h : Objects) (v w : Value) : Computed :=
  match number? v, number? w with
  | some x, some y => h.onNumbers .sub x y
  | _, _ => .error (.operands .sub (h.kind v) (h.kind w))

def mul (h : Objects) (v w : Value) : Computed :=
  match number? v, number? w with
  | some x, some y => h.onNumbers .mul x y
  | _, _ =>
    match h.sequence? v, h.sequence? w with
    | some seq, _ => h.repeated seq w
    | none, some seq => h.repeated seq v
    | none, none => .error (.operands .mul (h.kind v) (h.kind w))

def double (h : Objects) (v : Value) : Computed := h.mul v (.int 2)

end Objects
end NodeWalk
