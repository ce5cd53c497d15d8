set_option autoImplicit false

/-!
# Binary floating-point numbers

A number of 64 bits. What is not a number carries a mark: two such numbers are
the same object exactly when their marks agree, although neither equals
anything by value. `Position` places floating-point numbers and integers on one
exact scale, so a comparison never rounds the integer.
-/
namespace NodeWalk

structure Binary64 where
  bits : UInt64
  mark : Nat := 0
deriving DecidableEq, Inhabited

/-- A place on the extended line; `finite n` stands for `n / 2 ^ 1074`. -/
inductive Position where
  | below
  | finite (scaled : Int)
  | above
deriving DecidableEq

namespace Position

def unit : Int := Nat.pow 2 1074

def ofInt (n : Int) : Position := .finite (n * unit)

def compare : Position → Position → Ordering
  | .below, .below => .eq
  | .below, _ => .lt
  | .finite _, .below => .gt
  | .finite a, .finite b => Ord.compare a b
  | .finite _, .above => .lt
  | .above, .above => .eq
  | .above, _ => .gt

end Position

namespace Binary64

def negative (x : Binary64) : Bool := x.bits >>> 63 != 0

def exponentField (x : Binary64) : Nat := ((x.bits >>> 52) &&& 0x7FF).toNat

def fraction (x : Binary64) : Nat := (x.bits &&& 0xFFFFFFFFFFFFF).toNat

def isNaN (x : Binary64) : Bool := x.exponentField == 0x7FF && x.fraction != 0

def isInfinite (x : Binary64) : Bool := x.exponentField == 0x7FF && x.fraction == 0

def isZero (x : Binary64) : Bool := x.exponentField == 0 && x.fraction == 0

/-- A finite magnitude is `significand * 2 ^ (power - 1074)`. -/
def significand (x : Binary64) : Nat :=
  if x.exponentField == 0 then x.fraction else Nat.pow 2 52 + x.fraction

def power (x : Binary64) : Nat := x.exponentField - 1

/-- Nowhere exactly when `x` is not a number. -/
def position? (x : Binary64) : Option Position :=
  if x.isNaN then none
  else if x.isInfinite then some (if x.negative then .below else .above)
  else
    let magnitude : Int := x.significand * Nat.pow 2 x.power
    some (.finite (if x.negative then -magnitude else magnitude))

def toInt? (x : Binary64) : Option Int :=
  match x.position? with
  | some (.finite n) => if n % Position.unit = 0 then some (n / Position.unit) else none
  | _ => none

def toFloat (x : Binary64) : Float := Float.ofBits x.bits

/-- The mark is kept only where it tells two numbers apart. -/
def ofFloat (x : Float) (mark : Nat) : Binary64 :=
  if x.isNaN then ⟨0x7FF8000000000000, mark⟩ else ⟨x.toBits, 0⟩

def nan (mark : Nat) : Binary64 := ⟨0x7FF8000000000000, mark⟩

def infinity (negative : Bool) : Binary64 :=
  ⟨if negative then 0xFFF0000000000000 else 0x7FF0000000000000, 0⟩

def add (x y : Binary64) (mark : Nat) : Binary64 := ofFloat (x.toFloat + y.toFloat) mark

def sub (x y : Binary64) (mark : Nat) : Binary64 := ofFloat (x.toFloat - y.toFloat) mark

def mul (x y : Binary64) (mark : Nat) : Binary64 := ofFloat (x.toFloat * y.toFloat) mark

/-- The ratio as a whole number; a tie goes to the even one. -/
def roundRatio (num den : Nat) : Nat :=
  let count := num / den
  match compare (2 * (num % den)) den with
  | .lt => count
  | .eq => count + count % 2
  | .gt => count + 1

def infinityBits : Nat := 0x7FF0000000000000

/-- The bits of the number nearest to `scaled / den` on the scale of `Position`, ties to
even. Without the sign, the bits of a finite number are `power * 2 ^ 52 + significand`, so a
significand that is rounded up to the next power of two carries into the exponent. -/
def nearestBits (scaled den : Nat) : Nat :=
  let power := (scaled / den).log2 - 52
  min infinityBits (power * Nat.pow 2 52 + roundRatio scaled (den * Nat.pow 2 power))

def ofMagnitude (negative : Bool) (bits : Nat) : Binary64 :=
  ⟨UInt64.ofNat ((if negative then Nat.pow 2 63 else 0) + bits), 0⟩

/-- The number nearest to `± digits * 10 ^ exponent`, ties to even. Magnitudes
far outside the range are decided by the number of digits alone. -/
def ofDecimal (negative : Bool) (digits : Nat) (exponent : Int) : Binary64 :=
  let size : Int := digits.log2 + 1
  ofMagnitude negative <|
    if digits = 0 then 0
    else if exponent > 400 then infinityBits
    else if exponent + size < -400 then 0
    else nearestBits (digits * Nat.pow 10 exponent.toNat * Nat.pow 2 1074)
      (Nat.pow 10 (-exponent).toNat)

/-- The number nearest to an integer, unless the integer lies beyond all of them. -/
def ofInt? (n : Int) : Option Binary64 :=
  let x := ofDecimal (n < 0) n.natAbs 0
  if x.isInfinite then none else some x

end Binary64
end NodeWalk
