import NodeWalk.Text.Ranges

set_option autoImplicit false

/-!
# Blank characters

Two classes of blanks. `isBlank` is the wide one: the white space of Unicode 14
and the four separator controls U+001C to U+001F. `isWhiteSpace` is the Unicode
property alone. `trim` cuts a class of blanks off both ends of a text.
-/
namespace NodeWalk.Text

def separatorControls : Ranges := [(0x1C, 0x1F)]

def whiteSpaceRanges : Ranges :=
  [(0x9, 0xD), (0x20, 0x20), (0x85, 0x85), (0xA0, 0xA0), (0x1680, 0x1680), (0x2000, 0x200A),
   (0x2028, 0x2029), (0x202F, 0x202F), (0x205F, 0x205F), (0x3000, 0x3000)]

def isWhiteSpace (c : CodePoint) : Bool := whiteSpaceRanges.holds c

def isBlank (c : CodePoint) : Bool := isWhiteSpace c || separatorControls.holds c

def isPlainBlank (c : CodePoint) : Bool := c.toNat = 0x20 || (0x9 ≤ c.toNat && c.toNat ≤ 0xD)

def trim {α : Type} (blank : α → Bool) (cs : List α) : List α :=
  ((cs.dropWhile blank).reverse.dropWhile blank).reverse

end NodeWalk.Text
