import NodeWalk.Log
import NodeWalk.Text.Quoted
import NodeWalk.Text.Numeral

set_option autoImplicit false

/-!
# Loggers

A logger lets messages of a severity through to one handler, which writes each
as a line of its own in a layout. A layout is a text with fields such as
`%(message)s`; one without any field is refused.
-/
namespace NodeWalk

structure LayoutField where
  name : String
  flags : List Char
  width : Nat
  precision : Option Nat
  conversion : Char
deriving DecidableEq

inductive LayoutPiece where
  | plain (c : Char)
  | field (f : LayoutField)
deriving DecidableEq

structure Layout where
  pieces : List LayoutPiece
deriving DecidableEq

namespace Layout

def isWordChar (c : Char) : Bool := c.isAlphanum || c = '_' || c.toNat ≥ 0x80

def isFlag (c : Char) : Bool := c = '#' || c = '0' || c = '+' || c = ' ' || c = '-'

def isConversion (c : Char) : Bool := "diouxefgcrsaDIOUXEFGCRSA%".toList.contains c

def number (cs : List Char) : Nat × List Char :=
  (Numeral.value ((cs.takeWhile Char.isDigit).map fun c => c.toNat - 48),
    cs.dropWhile Char.isDigit)

def field? (cs : List Char) : Option (LayoutField × Nat) :=
  let name := cs.takeWhile isWordChar
  match cs.drop name.length with
  | ')' :: rest =>
    let flags := rest.takeWhile isFlag
    let (width, tail) := number (rest.drop flags.length)
    let (precision, tail) : Option Nat × List Char :=
      match tail with
      | '.' :: c :: more =>
        if c.isDigit then
          let (n, tail) := number (c :: more)
          (some n, tail)
        else (none, tail)
      | _ => (none, tail)
    match tail with
    | c :: tail =>
      if isConversion c && !name.isEmpty then
        some (⟨String.ofList name, flags, width, precision, c⟩, cs.length - tail.length)
      else none
    | [] => none
  | _ => none

/-- Reads pieces; the first argument counts the characters of a field still to skip. -/
def readPieces : Nat → List Char → List LayoutPiece
  | _, [] => []
  | skip + 1, _ :: cs => readPieces skip cs
  | 0, '%' :: '(' :: cs =>
    match field? cs with
    | some (f, taken) => .field f :: readPieces (taken + 1) ('(' :: cs)
    | none => .plain '%' :: readPieces 0 ('(' :: cs)
  | 0, '%' :: '%' :: cs => .plain '%' :: readPieces 0 cs
  | 0, c :: cs => .plain c :: readPieces 0 cs

def message : Layout := ⟨[.field ⟨"message", [], 0, none, 's'⟩]⟩

/-- Whether what looks like a field starts anywhere, be it behind a percent sign. -/
def hasField : List Char → Bool
  | '%' :: '(' :: cs => (field? cs).isSome || hasField cs
  | _ :: cs => hasField cs
  | [] => false

def ofText? (s : String) : Option Layout :=
  if s = "" then some message
  else if hasField s.toList then some ⟨readPieces 0 s.toList⟩
  else none

def standard : Layout :=
  ⟨[.plain '[', .field ⟨"levelname", [], 0, none, 's'⟩, .plain ']', .plain ' ',
    .field ⟨"name", [], 0, none, 's'⟩, .plain ':', .plain ' ',
    .field ⟨"message", [], 0, none, 's'⟩]⟩

def isNumeric (f : LayoutField) : Bool :=
  f.conversion = 'd' || f.conversion = 'i' || f.conversion = 'u'

/-- Fills a text up to a width, on the left unless a flag asks for the right. A
number may be filled with zeros, and keeps all its digits. -/
def padded (f : LayoutField) (s : String) : String :=
  let cs := match f.precision with
    | some n => if isNumeric f then s.toList else s.toList.take n
    | none => s.toList
  let left := f.flags.contains '-'
  let filler := if f.flags.contains '0' && !left && isNumeric f then '0' else ' '
  let fill := List.replicate (f.width - cs.length) filler
  String.ofList (if left then cs ++ fill else fill ++ cs)

def fieldText (logger : String) (level : Level) (text : String) (f : LayoutField) : String :=
  match f.name with
  | "name" => padded f logger
  | "levelname" => padded f level.name
  | "levelno" => padded f (toString level.severity)
  | "message" => padded f text
  | _ => ""

def line (l : Layout) (logger : String) (level : Level) (text : String) : String :=
  String.join (l.pieces.map fun
    | .plain c => String.singleton c
    | .field f => fieldText logger level text f)

end Layout

structure Logger where
  name : String
  /-- Messages below this severity are dropped; 0 leaves the decision to the root. -/
  level : Int
  handlerLevel : Int
  layout : Layout

namespace Logger

def nameOf (module : String) : String :=
  "behavior_core." ++ (module.splitOn ".").getLastD ""

def properName (name : String) : String := if name = "" then "root" else name

/-- The severity from which the root lets messages through. -/
def rootSeverity : Int := Level.warning.severity

def setUp (name : String) (level : Option Int) (debug : Bool) (layout : Layout) : Logger :=
  let standard : Level := if debug then .debug else .info
  let level := level.getD standard.severity
  ⟨properName name, level, level, layout⟩

def threshold (l : Logger) : Int :=
  if l.level = 0 ∧ l.name ≠ "root" then rootSeverity else l.level

/-- What a message adds to the output. -/
def written (l : Logger) (level : Level) (text : String) : String :=
  if l.threshold ≤ level.severity ∧ l.handlerLevel ≤ level.severity then
    l.layout.line l.name level text ++ "\n"
  else ""

end Logger
end NodeWalk
