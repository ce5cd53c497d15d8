import NodeWalk.Text

set_option autoImplicit false

/-!
# Ranges of code points

A class of code points is a list of closed ranges, ascending and apart; a code
point belongs to the class when one of the ranges holds its number.
-/
namespace NodeWalk.Text

abbrev Ranges := List (Nat × Nat)

def Ranges.holds (table : Ranges) (c : CodePoint) : Bool :=
  table.any fun r => r.1 ≤ c.toNat && c.toNat ≤ r.2

end NodeWalk.Text
