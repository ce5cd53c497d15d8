import NodeWalk.Number.Shortest

set_option autoImplicit false

/-!
# Written floating-point numbers

A number is written with the fewest digits that identify it. The leading digit's
exponent decides the layout: from -4 to 15 the point stands among the digits and
at least one digit follows it, elsewhere an exponent with a sign and at least two
digits follows. The names of the numbers without digits are a `Spelling`.
-/
namespace NodeWalk

structure Spelling where
  nan : String
  infinity : String

def Spelling.shown : Spelling := ⟨"nan", "inf"⟩

def Spelling.document : Spelling := ⟨"NaN", "Infinity"⟩

namespace Decimal

def zeros (n : Nat) : String := String.ofList (List.replicate n '0')

/-- The point stands after, inside or before the digits. -/
def plain (digits : String) (lead : Int) : String :=
  let n := digits.length
  if lead < 0 then "0." ++ zeros (-lead - 1).toNat ++ digits
  else if n ≤ lead.toNat + 1 then digits ++ zeros (lead.toNat + 1 - n) ++ ".0"
  else
    let cs := digits.toList
    String.ofList (cs.take (lead.toNat + 1)) ++ "." ++ String.ofList (cs.drop (lead.toNat + 1))

def scientific (digits : String) (lead : Int) : String :=
  let cs := digits.toList
  let rest := String.ofList (cs.drop 1)
  let power := toString lead.natAbs
  String.ofList (cs.take 1) ++ (if rest.isEmpty then "" else "." ++ rest) ++ "e"
    ++ (if lead < 0 then "-" else "+") ++ zeros (2 - power.length) ++ power

def layout (d : Decimal) : String :=
  let digits := toString d.digits
  let lead := d.exponent + digits.length - 1
  if -4 ≤ lead ∧ lead < 16 then plain digits lead else scientific digits lead

end Decimal

namespace Binary64

def write (spelling : Spelling) (x : Binary64) : String :=
  if x.isNaN then spelling.nan
  else
    (if x.negative then "-" else "") ++
      (if x.isInfinite then spelling.infinity
       else if x.isZero then "0.0"
       else (Magnitude.ofBinary64 x).shortest.layout)

end Binary64
end NodeWalk
