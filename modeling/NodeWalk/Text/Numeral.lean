import NodeWalk.Text.Blank
import NodeWalk.Text.DecimalDigit

set_option autoImplicit false

/-!
# Integers as text

An integer of more than 4300 digits has no text: `write?` refuses it, and
`read` refuses a numeral of that length with its number of digits. A numeral is
an optional sign and digits of any script, single underscores allowed between
digits, blanks allowed around the whole.
-/
namespace NodeWalk.Numeral

def maxDigits : Nat := 4300

def writable (n : Int) : Bool := n.natAbs < Nat.pow 10 maxDigits

def write? (n : Int) : Option String := if writable n then some (toString n) else none

inductive Refusal where
  | malformed
  | tooLong (digits : Nat)
deriving DecidableEq

def value (digits : List Nat) : Nat := digits.foldl (fun n d => 10 * n + d) 0

/-- Any blank counts as a space and any decimal digit as its value; what is
neither keeps its character when it is plain and stops being one otherwise. -/
inductive Mark where
  | blank
  | digit (d : Nat)
  | plus
  | minus
  | underscore
  | other
deriving DecidableEq

def Mark.ofPoint (c : CodePoint) : Mark :=
  if Text.isPlainBlank c then .blank
  else if c.toNat < 0x80 then
    if c.isDigit then .digit (c.toNat - 48)
    else if c = '+' then .plus
    else if c = '-' then .minus
    else if c = '_' then .underscore
    else .other
  else if Text.isBlank c then .blank
  else match Text.digitValue? c with
    | some d => .digit d
    | none => .other

/-- The digits at the front, single underscores between them, and the rest;
nothing where an underscore is doubled, leads or trails. -/
def digitRun : List Mark → Option (List Nat × List Mark)
  | .digit d :: .underscore :: .digit e :: rest =>
    (digitRun (.digit e :: rest)).map fun r => (d :: r.1, r.2)
  | .digit _ :: .underscore :: _ => none
  | .digit d :: rest =>
    match rest with
    | .digit _ :: _ => (digitRun rest).map fun r => (d :: r.1, r.2)
    | _ => some ([d], rest)
  | _ => none

def signed : List Mark → Bool × List Mark
  | .plus :: rest => (false, rest)
  | .minus :: rest => (true, rest)
  | rest => (false, rest)

/-- The length is checked before anything behind the digits. -/
def read (s : Text) : Except Refusal Int :=
  let (negative, rest) := signed ((s.points.map Mark.ofPoint).dropWhile (· == .blank))
  match digitRun rest with
  | none => .error .malformed
  | some (digits, rest) =>
    if digits.length > maxDigits then .error (.tooLong digits.length)
    else if rest.all (· == .blank) then
      .ok (if negative then -(value digits : Int) else value digits)
    else .error .malformed

end NodeWalk.Numeral
