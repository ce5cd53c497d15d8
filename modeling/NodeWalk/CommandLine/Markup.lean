import NodeWalk.CommandLine.Emoji
import NodeWalk.Text.Blank

set_option autoImplicit false

/-!
# Markup

Texts for the screen may hold tags in square brackets, which style what follows
and are not shown, and emoji by name between colons. Backslashes in front of a
tag stand for half as many, and an odd one makes the tag a plain text; in front of
a bracket that opens no tag, one backslash is lost. `escape` makes a text of
anything that is to be shown as it is, and `plain` is what is shown of a markup.
-/
namespace NodeWalk.Markup

def opensTag (c : Char) : Bool :=
  ('a' ≤ c && c ≤ 'z') || c = '#' || c = '/' || c = '@'

def tagLength? : List Char → Option Nat
  | [] => none
  | c :: cs =>
    let n := (cs.takeWhile fun c => c != '[' && c != ']').length
    if opensTag c && (cs.drop n).head? = some ']' then some (n + 2) else none

/-- A stretch of markup without tags, or a tag with the number of backslashes in
front of it. -/
inductive Piece where
  | text (cs : List Char)
  | tag (backslashes : Nat) (cs : List Char)
deriving DecidableEq

def Piece.ofText (cs : List Char) (rest : List Piece) : List Piece :=
  if cs.isEmpty then rest else .text cs :: rest

/-- The pieces of a markup; `seen` has been read, the last character first, and
then as many backslashes. -/
def pieces (seen : List Char) (backslashes : Nat) : List Char → List Piece
  | [] => Piece.ofText (seen.reverse ++ List.replicate backslashes '\\') []
  | c :: cs =>
    if c = '\\' then pieces seen (backslashes + 1) cs
    else
      let kept := c :: (List.replicate backslashes '\\' ++ seen)
      if c = '[' then
        match tagLength? cs with
        | some n =>
          Piece.ofText seen.reverse (.tag backslashes (c :: cs.take n) :: pieces [] 0 (cs.drop n))
        | none => pieces kept 0 cs
      else pieces kept 0 cs
termination_by cs => cs.length
decreasing_by all_goals simp only [List.length_cons, List.length_drop]; omega

/-- A single backslash at the end is doubled, as a tag may follow. -/
def escape (cs : List Char) : List Char :=
  let escaped := (pieces [] 0 cs).flatMap fun
    | .text cs => cs
    | .tag n cs => List.replicate (2 * n + 1) '\\' ++ cs
  match escaped.reverse with
  | '\\' :: '\\' :: _ => escaped
  | '\\' :: _ => escaped ++ ['\\']
  | _ => escaped

def withoutBackslashes : List Char → List Char
  | '\\' :: '[' :: cs => '[' :: withoutBackslashes cs
  | c :: cs => c :: withoutBackslashes cs
  | [] => []

def named (code : List Char) : List Char × List Char :=
  if "-text".toList.isSuffixOf code then (code.take (code.length - 5), ['\uFE0E'])
  else if "-emoji".toList.isSuffixOf code then (code.take (code.length - 6), ['\uFE0F'])
  else (code, [])

def code? (cs : List Char) : Option (List Char) :=
  let code := cs.takeWhile fun c => c != ':' && !Text.isBlank c
  if (cs.drop code.length).head? = some ':' then some code else none

/-- What a code stands for; one that names no emoji stays. -/
def decoded (code : List Char) : List Char :=
  let (name, style) := named code
  match Emoji.find? (String.ofList name) with
  | some glyph => glyph.toList ++ style
  | none => ':' :: code ++ [':']

/-- What stands between two colons is a code where it holds no blank. -/
def withEmoji : List Char → List Char
  | [] => []
  | c :: cs =>
    match if c = ':' then code? cs else none with
    | some code => decoded code ++ withEmoji (cs.drop (code.length + 1))
    | none => c :: withEmoji cs
termination_by cs => cs.length
decreasing_by all_goals simp only [List.length_cons, List.length_drop]; omega

def stretch (cs : List Char) : List Char := withEmoji (withoutBackslashes cs)

def plain (cs : List Char) : List Char :=
  (pieces [] 0 cs).flatMap fun
    | .text cs => stretch cs
    | .tag n cs =>
      List.replicate (n / 2) '\\' ++ (if n % 2 = 1 then stretch cs else [])

end NodeWalk.Markup
