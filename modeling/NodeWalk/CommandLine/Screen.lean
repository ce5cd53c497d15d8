import NodeWalk.CommandLine.Markup

set_option autoImplicit false

/-!
# The screen

How markup comes out on a screen of a thousand columns, one for each character:
some control characters are dropped, tabs reach to the next multiple of eight, and
long lines are broken at blanks, or inside a word that no line can hold. What
stands in a panel is cut off at its inner width instead.
-/
namespace NodeWalk.Screen

def width : Nat := 1000

def panelWidth : Nat := 996

def isDropped (c : Char) : Bool :=
  c = '\x07' || c = '\x08' || c = '\x0b' || c = '\x0c' || c = '\r'

/-- Replaces tabs; `column` characters stand before the text on its line. -/
def expandTabs : Nat → List Char → List Char
  | _, [] => []
  | column, '\t' :: cs =>
    List.replicate (8 - column % 8) ' ' ++ expandTabs (column + (8 - column % 8)) cs
  | _, '\n' :: cs => '\n' :: expandTabs 0 cs
  | column, c :: cs => c :: expandTabs (column + 1) cs

def shown (markup : List Char) : List Char :=
  (Markup.plain markup).filter fun c => !isDropped c

def withoutBlanks (cs : List Char) : List Char :=
  (cs.reverse.dropWhile fun c : Char => Text.isBlank c).reverse

/-- The line, cut behind every blank that no further blank follows. -/
def stretches (cs : List Char) : List (List Char) :=
  cs.foldr (fun c ws =>
    match ws with
    | [] => [[c]]
    | w :: ws =>
      if Text.isBlank c && !w.head?.any fun c => Text.isBlank c then [c] :: w :: ws
      else (c :: w) :: ws) []

/-- The words of a line, each with the blanks behind it, the first also with those
before it. -/
def words (cs : List Char) : List (List Char) :=
  match stretches cs with
  | w :: v :: ws => if w.all fun c => Text.isBlank c then (w ++ v) :: ws else w :: v :: ws
  | ws => ws

/-- Cuts a word into lines; the last takes what is left. -/
def chop (cs : List Char) : List (List Char) :=
  if cs.length ≤ width then [cs] else cs.take width :: chop (cs.drop width)
termination_by cs.length
decreasing_by simp only [List.length_drop, width]; omega

structure Filling where
  full : List (List Char)
  line : List Char
deriving DecidableEq

def Filling.add (f : Filling) (word : List Char) : Filling :=
  let bare := (withoutBlanks word).length
  if f.line.length + bare ≤ width then ⟨f.full, f.line ++ word⟩
  else
    let full := if f.line.isEmpty then f.full else f.full ++ [f.line]
    if bare ≤ width then ⟨full, word⟩
    else ⟨full ++ (chop word).dropLast, (chop word).getLast?.getD []⟩

/-- Only blanks can stand beyond the last column; they are not shown. -/
def wrap (line : List Char) : List (List Char) :=
  let f := (words line).foldl Filling.add ⟨[], []⟩
  (f.full ++ [f.line]).map (·.take width)

def verbatim (s : Text) : String := String.ofList (Markup.escape s.visible.toList)

def text (markup : String) : String :=
  let lines := (String.ofList (shown markup.toList)).splitOn "\n"
  String.join ((lines.flatMap fun line => wrap (expandTabs 0 line.toList)).map fun line =>
    String.ofList line ++ "\n")

/-- A title stands on one line, behind a blank and before others. -/
def title (markup : String) : String :=
  let line := (shown markup.toList).map fun c => if c = '\n' then ' ' else c
  String.ofList (withoutBlanks ((expandTabs 0 line).take (panelWidth - 1)))

/-- A panel as text: its title and its lines, without the frame and the blanks
before its right side. -/
def panel (heading body : String) : String :=
  let line (s : String) : String :=
    String.ofList ((s.toList.take panelWidth).reverse.dropWhile (· = ' ')).reverse ++ "\n"
  title heading ++ "\n" ++ String.join ((body.splitOn "\n").map line)

/-- A table as text: its rows with a bar between the cells. -/
def table (rows : List (List String)) : String :=
  String.join (rows.map fun row => " | ".intercalate row ++ "\n")

end NodeWalk.Screen
