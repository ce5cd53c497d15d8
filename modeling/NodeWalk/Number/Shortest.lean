import NodeWalk.Number.Binary64

set_option autoImplicit false

/-!
# The shortest decimal of a floating-point number

A finite magnitude `m * 2 ^ q` is nearest to a whole interval of reals. Of the
decimals in that interval `shortest` takes one with the fewest digits, and of
those the nearest to the magnitude; an exact tie goes to the even digit. The
search tests, for 1 to 17 digits, the two neighbours of the magnitude on the
grid of that many digits, in exact arithmetic.
-/
namespace NodeWalk

structure Decimal where
  digits : Nat
  exponent : Int
deriving DecidableEq

namespace Decimal

def compareScaled (a : Nat) (i : Int) (n : Nat) (j : Int) : Ordering :=
  compare (a * Nat.pow 10 i.toNat * Nat.pow 2 (-j).toNat)
    (n * Nat.pow 2 j.toNat * Nat.pow 10 (-i).toNat)

def strip : Nat → Decimal → Decimal
  | 0, d => d
  | fuel + 1, d =>
    if d.digits != 0 && d.digits % 10 == 0 then strip fuel ⟨d.digits / 10, d.exponent + 1⟩ else d

end Decimal

structure Magnitude where
  significand : Nat
  power : Int
  /-- The neighbour below is only half as far away as the neighbour above. -/
  narrowBelow : Bool

namespace Magnitude

def ofBinary64 (x : Binary64) : Magnitude :=
  ⟨x.significand, (x.power : Int) - 1074, x.fraction == 0 && x.exponentField > 1⟩

def contains (x : Magnitude) (d : Decimal) : Bool :=
  let low := if x.narrowBelow then 4 * x.significand - 1 else 4 * x.significand - 2
  let high := 4 * x.significand + 2
  let closed := x.significand % 2 == 0
  let toLow := Decimal.compareScaled d.digits d.exponent low (x.power - 2)
  let toHigh := Decimal.compareScaled d.digits d.exponent high (x.power - 2)
  (toLow == .gt || (closed && toLow == .eq)) && (toHigh == .lt || (closed && toHigh == .eq))

/-- The first of `k, k + 1, …` with the magnitude below `10 ^ k`. -/
def raiseScale (x : Magnitude) : Nat → Int → Int
  | 0, k => k
  | fuel + 1, k =>
    if Decimal.compareScaled 1 k x.significand x.power == .gt then k else raiseScale x fuel (k + 1)

/-- The least `k` with the magnitude below `10 ^ k`. -/
def scale (x : Magnitude) : Int :=
  raiseScale x 6 (((x.significand.log2 : Int) + x.power) * 1233 / 4096 - 1)

def countBelow (x : Magnitude) (e : Int) : Nat :=
  x.significand * Nat.pow 2 x.power.toNat * Nat.pow 10 (-e).toNat /
    (Nat.pow 2 (-x.power).toNat * Nat.pow 10 e.toNat)

/-- Which of `count` and `count + 1` grid steps is nearer, a tie going to even. -/
def nearer (x : Magnitude) (count : Nat) (e : Int) : Nat :=
  match Decimal.compareScaled (2 * count + 1) e (2 * x.significand) x.power with
  | .gt => count
  | .lt => count + 1
  | .eq => if count % 2 == 0 then count else count + 1

/-- The decimal of `n` digits that is nearest to the magnitude, if one of its
two neighbours on that grid lies in the interval. -/
def onGrid (x : Magnitude) (k : Int) (n : Nat) : Option Decimal :=
  let e := k - n
  let count := x.countBelow e
  match x.contains ⟨count, e⟩, x.contains ⟨count + 1, e⟩ with
  | true, true => some ⟨x.nearer count e, e⟩
  | true, false => some ⟨count, e⟩
  | false, true => some ⟨count + 1, e⟩
  | false, false => none

def exact (x : Magnitude) : Decimal :=
  ⟨x.significand * Nat.pow 2 x.power.toNat * Nat.pow 5 (-x.power).toNat, min x.power 0⟩

def shortest (x : Magnitude) : Decimal :=
  let k := x.scale
  (((List.range 17).findSome? fun n => x.onGrid k (n + 1)).getD x.exact).strip 800

end Magnitude
end NodeWalk
