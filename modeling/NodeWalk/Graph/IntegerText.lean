import NodeWalk.Text.Numeral

set_option autoImplicit false

/-!
# Integers as texts

How an integer field reads a text. A plain integer is an optional minus sign and
digits without a leading zero. A text that is none is bared first: blanks around
it, a plus sign, leading zeros with the underscores among them, a point that only
zeros follow, and single underscores go, and what is left must be plain. Zeros
may lead up to a minus sign, which then counts as the sign of the number.
-/
namespace NodeWalk.IntegerText

open Numeral (Refusal maxDigits value)

/-- A sign counts as a digit where the length is limited, and the limit is
checked before anything behind the digits. -/
def plain (cs : List CodePoint) : Except Refusal Int :=
  let (negative, unsigned) : Bool × List CodePoint :=
    match cs with
    | .char '-' :: rest => (true, rest)
    | _ => (false, cs)
  let digits := unsigned.takeWhile CodePoint.isDigit
  if digits.length = 0 then .error .malformed
  else if digits.head? = some (.char '0') then
    if unsigned.length = 1 then .ok 0 else .error .malformed
  else if digits.length + (if negative then 1 else 0) > maxDigits then
    .error (.tooLong digits.length)
  else if digits.length < unsigned.length then .error .malformed
  else
    let n : Int := value (digits.map fun c => c.toNat - 48)
    .ok (if negative then -n else n)

/-- What stands behind leading zeros and underscores, the last of which is
`last`; it is kept where a point or nothing follows it. -/
def behindZeros (last : CodePoint) : List CodePoint → Option (List CodePoint)
  | [] => some [last]
  | c :: rest =>
    if c = '0' || c = '_' then behindZeros c rest
    else if c.isDigit || c = '-' then some (c :: rest)
    else if c = '.' then some (last :: c :: rest)
    else none

/-- Nothing for a text that starts with no digit. -/
def withoutLeadingZeros : List CodePoint → Option (List CodePoint)
  | [] => none
  | c :: rest =>
    if c = '0' then behindZeros c rest
    else if c.isDigit then some (c :: rest)
    else none

/-- The part before a point that only zeros follow, one at least. -/
def withoutFraction (cs : List CodePoint) : List CodePoint :=
  match cs.dropWhile (· != .char '.') with
  | .char '.' :: z :: zs =>
    if (z :: zs).all (· = .char '0') then cs.takeWhile (· != .char '.') else cs
  | _ => cs

/-- Nothing where an underscore leads, trails or is doubled. -/
def withoutUnderscores (cs : List CodePoint) : Option (List CodePoint) :=
  let bar : CodePoint := '_'
  if cs.head? = some bar || cs.getLast? = some bar || (cs.zip cs.tail).any (· = (bar, bar)) then
    none
  else some (cs.filter (· != bar))

def bareUnsigned (cs : List CodePoint) : Option (List CodePoint) := do
  withoutUnderscores (withoutFraction (← withoutLeadingZeros cs))

def bare (cs : List CodePoint) : Option (List CodePoint) :=
  match Text.trim Text.isWhiteSpace cs with
  | .char '+' :: rest => bareUnsigned rest
  | .char '-' :: rest => (bareUnsigned rest).map (.char '-' :: ·)
  | cs => bareUnsigned cs

/-- The length of a bared text is no reason of its own. -/
def read (s : Text) : Except Refusal Int :=
  match plain s.points with
  | .error .malformed =>
    match (bare s.points).map plain with
    | some (.ok n) => .ok n
    | _ => .error .malformed
  | answer => answer

end NodeWalk.IntegerText
