import NodeWalk.Json.Basic

set_option autoImplicit false

/-!
# Reading documents

`Json.read` reads a whole text. Besides the standard grammar it takes the names
of the numbers without digits; of equal keys the last value counts, at the place
of the first. A number with a point or an exponent is a floating-point number,
every other number an integer. A malformed text is refused at a position.
-/
namespace NodeWalk.Json

inductive Complaint where
  | valueExpected
  | nameExpected
  | colonExpected
  | commaExpected
  | endExpected
  | unterminatedText
  | controlCharacter
  | badEscape
  | badUnicodeEscape
  | byteOrderMark
deriving DecidableEq

def Complaint.message : Complaint → String
  | .valueExpected => "Expecting value"
  | .nameExpected => "Expecting property name enclosed in double quotes"
  | .colonExpected => "Expecting ':' delimiter"
  | .commaExpected => "Expecting ',' delimiter"
  | .endExpected => "Extra data"
  | .unterminatedText => "Unterminated string starting at"
  | .controlCharacter => "Invalid control character at"
  | .badEscape => "Invalid \\escape"
  | .badUnicodeEscape => "Invalid \\uXXXX escape"
  | .byteOrderMark => "Unexpected UTF-8 BOM (decode using utf-8-sig)"

/-- Why reading stopped, with the number of characters left at the place. -/
inductive Stop where
  | malformed (what : Complaint) (left : Nat)
  | integerTooLong (digits : Nat)
deriving DecidableEq

def isSpace (c : CodePoint) : Bool := c = ' ' || c = '\t' || c = '\n' || c = '\r'

def skipSpace (cs : List CodePoint) : List CodePoint := cs.dropWhile isSpace

def hexValue? (c : CodePoint) : Option Nat :=
  let n := c.toNat
  if 0x30 ≤ n ∧ n ≤ 0x39 then some (n - 0x30)
  else if 0x61 ≤ n ∧ n ≤ 0x66 then some (n - 0x57)
  else if 0x41 ≤ n ∧ n ≤ 0x46 then some (n - 0x37)
  else none

def unit? (a b c d : CodePoint) : Option Nat := do
  some ((← hexValue? a) * 4096 + (← hexValue? b) * 256 + (← hexValue? c) * 16 + (← hexValue? d))

def isHighHalf (u : Nat) : Bool := 0xD800 ≤ u && u < 0xDC00

def isLowHalf (u : Nat) : Bool := 0xDC00 ≤ u && u < 0xE000

def unescape? : CodePoint → Option Char
  | .char '"' => some '"'
  | .char '\\' => some '\\'
  | .char '/' => some '/'
  | .char 'b' => some '\x08'
  | .char 'f' => some '\x0c'
  | .char 'n' => some '\n'
  | .char 'r' => some '\r'
  | .char 't' => some '\t'
  | _ => none

/-- What a unit stands for together with the text behind it: the unit alone, or
the pair that it forms with an escaped second half, six characters on. -/
inductive Paired where
  | alone
  | pair (low : Nat)
  | malformed

def pairOf (high : Nat) : List CodePoint → Paired
  | .char '\\' :: .char 'u' :: a :: b :: c :: d :: _ :: _ =>
    if isHighHalf high then
      match unit? a b c d with
      | none => .malformed
      | some low => if isLowHalf low then .pair low else .alone
    else .alone
  | _ => .alone

/-- Reads up to the closing quote; `start` characters were left at the opening
one, and `done` is what has been read, the last first. -/
def readText (start : Nat) : List CodePoint → List CodePoint → Except Stop (Text × List CodePoint)
  | _, [] => .error (.malformed .unterminatedText start)
  | done, .char '"' :: rest => .ok (⟨done.reverse⟩, rest)
  | done, .char '\\' :: .char 'u' :: a :: b :: c :: d :: rest =>
    match if rest.isEmpty then none else unit? a b c d with
    | none => .error (.malformed .badUnicodeEscape (rest.length + 5))
    | some unit =>
      match pairOf unit rest with
      | .malformed => .error (.malformed .badUnicodeEscape (rest.length - 1))
      | .alone => readText start (.ofNat unit :: done) rest
      | .pair low =>
        match rest with
        | _ :: _ :: _ :: _ :: _ :: _ :: rest => readText start (.ofPair unit low :: done) rest
        | rest => readText start (.ofNat unit :: done) rest
  | _, .char '\\' :: .char 'u' :: rest =>
    .error (.malformed .badUnicodeEscape (rest.length + 1))
  | done, .char '\\' :: c :: rest =>
    match unescape? c with
    | none => .error (.malformed .badEscape (rest.length + 2))
    | some c => readText start (c :: done) rest
  | _, [.char '\\'] => .error (.malformed .unterminatedText start)
  | done, c :: rest =>
    if c.toNat < 0x20 then .error (.malformed .controlCharacter (rest.length + 1))
    else readText start (c :: done) rest

def digits (cs : List CodePoint) : List Nat × List CodePoint :=
  ((cs.takeWhile CodePoint.isDigit).map fun c => c.toNat - 48, cs.dropWhile CodePoint.isDigit)

def wholePart? : List CodePoint → Option (List Nat × List CodePoint)
  | .char '0' :: rest => some ([0], rest)
  | c :: rest => if c.isDigit then some (digits (c :: rest)) else none
  | [] => none

def fractionPart (cs : List CodePoint) : List Nat × List CodePoint :=
  match cs with
  | .char '.' :: c :: rest => if c.isDigit then digits (c :: rest) else ([], cs)
  | _ => ([], cs)

def exponentPart (cs : List CodePoint) : Option Int × List CodePoint :=
  match cs with
  | e :: rest =>
    if e = 'e' || e = 'E' then
      let (negative, rest) : Bool × List CodePoint :=
        match rest with
        | .char '-' :: rest => (true, rest)
        | .char '+' :: rest => (false, rest)
        | _ => (false, rest)
      match digits rest with
      | ([], _) => (none, cs)
      | (ds, rest) =>
        let n : Int := Numeral.value ds
        (some (if negative then -n else n), rest)
    else (none, cs)
  | [] => (none, cs)

def readNumber? (cs : List CodePoint) : Option (Except Stop (Scalar × List CodePoint)) :=
  let (negative, unsigned) : Bool × List CodePoint :=
    match cs with
    | .char '-' :: rest => (true, rest)
    | _ => (false, cs)
  match wholePart? unsigned with
  | none => none
  | some (whole, rest) =>
    let (fraction, rest) := fractionPart rest
    let (exponent, rest) := exponentPart rest
    some <|
      if fraction.isEmpty && exponent.isNone then
        if whole.length > Numeral.maxDigits then .error (.integerTooLong whole.length)
        else
          let n : Int := Numeral.value whole
          .ok (.int (if negative then -n else n), rest)
      else
        .ok (.float (Binary64.ofDecimal negative (Numeral.value (whole ++ fraction))
          (exponent.getD 0 - fraction.length)), rest)

def readScalar (cs : List CodePoint) : Except Stop (Scalar × List CodePoint) :=
  match cs with
  | .char 'n' :: .char 'u' :: .char 'l' :: .char 'l' :: rest => .ok (.null, rest)
  | .char 't' :: .char 'r' :: .char 'u' :: .char 'e' :: rest => .ok (.bool true, rest)
  | .char 'f' :: .char 'a' :: .char 'l' :: .char 's' :: .char 'e' :: rest =>
    .ok (.bool false, rest)
  | .char 'N' :: .char 'a' :: .char 'N' :: rest => .ok (.float (.nan 0), rest)
  | .char 'I' :: .char 'n' :: .char 'f' :: .char 'i' :: .char 'n' :: .char 'i' :: .char 't'
      :: .char 'y' :: rest =>
    .ok (.float (.infinity false), rest)
  | .char '-' :: .char 'I' :: .char 'n' :: .char 'f' :: .char 'i' :: .char 'n' :: .char 'i'
      :: .char 't' :: .char 'y' :: rest =>
    .ok (.float (.infinity true), rest)
  | _ => (readNumber? cs).getD (.error (.malformed .valueExpected cs.length))

mutual

/-- Reads the value at the front. The first argument bounds the depth of calls. -/
def readValue : Nat → List CodePoint → Except Stop (Json × List CodePoint)
  | 0, cs => .error (.malformed .valueExpected cs.length)
  | fuel + 1, cs =>
    match cs with
    | .char '"' :: rest => do
      let (s, rest) ← readText cs.length [] rest
      .ok (.scalar (.text s), rest)
    | .char '[' :: rest =>
      match skipSpace rest with
      | .char ']' :: rest => .ok (.array [], rest)
      | rest => readItems fuel [] rest
    | .char '{' :: rest =>
      match skipSpace rest with
      | .char '}' :: rest => .ok (.object [], rest)
      | rest => readMembers fuel [] rest
    | _ => do
      let (s, rest) ← readScalar cs
      .ok (.scalar s, rest)

def readItems : Nat → List Json → List CodePoint → Except Stop (Json × List CodePoint)
  | 0, _, cs => .error (.malformed .valueExpected cs.length)
  | fuel + 1, done, cs => do
    let (v, rest) ← readValue fuel cs
    match skipSpace rest with
    | .char ']' :: rest => .ok (.array (v :: done).reverse, rest)
    | .char ',' :: rest => readItems fuel (v :: done) (skipSpace rest)
    | rest => .error (.malformed .commaExpected rest.length)

def readMembers :
    Nat → List (Text × Json) → List CodePoint → Except Stop (Json × List CodePoint)
  | 0, _, cs => .error (.malformed .valueExpected cs.length)
  | fuel + 1, done, cs =>
    match cs with
    | .char '"' :: rest => do
      let (k, rest) ← readText cs.length [] rest
      match skipSpace rest with
      | .char ':' :: rest =>
        let (v, rest) ← readValue fuel (skipSpace rest)
        match skipSpace rest with
        | .char '}' :: rest => .ok (.object (Entries.ofPairs ((k, v) :: done).reverse), rest)
        | .char ',' :: rest => readMembers fuel ((k, v) :: done) (skipSpace rest)
        | rest => .error (.malformed .commaExpected rest.length)
      | rest => .error (.malformed .colonExpected rest.length)
    | _ => .error (.malformed .nameExpected cs.length)

end

structure Place where
  line : Nat
  column : Nat
  offset : Nat
deriving DecidableEq

def Place.ofOffset (cs : List CodePoint) (offset : Nat) : Place :=
  let before := cs.take offset
  ⟨before.count (.char '\n') + 1, (before.reverse.takeWhile (· != .char '\n')).length + 1, offset⟩

inductive Refusal where
  | malformed (what : Complaint) (place : Place)
  | integerTooLong (digits : Nat)
deriving DecidableEq

def Stop.toRefusal (cs : List CodePoint) : Stop → Refusal
  | .malformed what left => .malformed what (.ofOffset cs (cs.length - left))
  | .integerTooLong digits => .integerTooLong digits

def readWhole (cs : List CodePoint) : Except Stop Json := do
  let (v, rest) ← readValue (2 * cs.length + 2) (skipSpace cs)
  match skipSpace rest with
  | [] => .ok v
  | rest => .error (.malformed .endExpected rest.length)

/-- Reads a document; a leading byte order mark is refused. -/
def read (cs : List CodePoint) : Except Refusal Json :=
  match cs with
  | .char '\ufeff' :: _ => .error (.malformed .byteOrderMark (.ofOffset cs 0))
  | _ => (readWhole cs).mapError (·.toRefusal cs)

end NodeWalk.Json
