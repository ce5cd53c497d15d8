import NodeWalk.Text.Printable

set_option autoImplicit false

/-!
# Quoted text

A text in quotes. The quote is the single one, unless the text holds a single
quote and no double one. The quote in use, the backslash and unprintable
characters are escaped, the latter with two, four or eight hexadecimal digits.
-/
namespace NodeWalk.Text

def hexDigit (n : Nat) : Char :=
  if n < 10 then Char.ofNat (48 + n) else Char.ofNat (87 + n)

def hex : Nat → Nat → List Char
  | 0, _ => []
  | width + 1, n => hex width (n / 16) ++ [hexDigit (n % 16)]

def quoteFor (cs : List CodePoint) : Char :=
  if cs.contains '\'' && !cs.contains '"' then '"' else '\''

/-- Half of a pair is not printable. -/
def escapeIn (quote : Char) : CodePoint → List Char
  | .char c =>
    if c = quote ∨ c = '\\' then ['\\', c]
    else if c = '\n' then ['\\', 'n']
    else if c = '\r' then ['\\', 'r']
    else if c = '\t' then ['\\', 't']
    else if isPrintable c then [c]
    else if c.toNat < 0x100 then '\\' :: 'x' :: hex 2 c.toNat
    else if c.toNat < 0x10000 then '\\' :: 'u' :: hex 4 c.toNat
    else '\\' :: 'U' :: hex 8 c.toNat
  | half => '\\' :: 'u' :: hex 4 half.toNat

def quoted (s : Text) : String :=
  let quote := quoteFor s.points
  String.ofList (quote :: s.points.flatMap (escapeIn quote) ++ [quote])

end NodeWalk.Text
