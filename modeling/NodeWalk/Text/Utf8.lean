import NodeWalk.Text

set_option autoImplicit false

/-!
# UTF-8

Decoding of octets into code points. The first ill-formed sequence stops the
decoding; its `Utf8Fault` names the octets from the lead octet up to, and not
including, the first one that cannot continue it. Halves of surrogate pairs are
ill formed unless they may pass.
-/
namespace NodeWalk.Text

inductive Utf8Reason where
  | badStart
  | badContinuation
  | endOfData
deriving DecidableEq

/-- The octets `start … stop - 1` are no character; `lead` is the first of them. -/
structure Utf8Fault where
  start : Nat
  stop : Nat
  lead : UInt8
  reason : Utf8Reason
deriving DecidableEq

namespace Utf8

def continues (b : UInt8) : Bool := b &&& 0xC0 == 0x80

/-- Which second octets may follow a lead octet: shorter forms and values beyond the
last code point are left out, and halves where they may not pass. -/
def follows (halves : Bool) (lead b : UInt8) : Bool :=
  continues b && (lead != 0xE0 || b ≥ 0xA0) && (halves || lead != 0xED || b < 0xA0)
    && (lead != 0xF0 || b ≥ 0x90) && (lead != 0xF4 || b < 0x90)

def width (lead : UInt8) : Nat :=
  if lead < 0x80 then 1
  else if lead < 0xC2 then 0
  else if lead < 0xE0 then 2
  else if lead < 0xF0 then 3
  else if lead < 0xF5 then 4
  else 0

def low (b : UInt8) : Nat := (b &&& 0x3F).toNat

/-- Decodes from position `i`; `done` is what has been read, the last first. -/
def decodeFrom (halves : Bool) (i : Nat) (done : List CodePoint) :
    List UInt8 → Except Utf8Fault (List CodePoint)
  | [] => .ok done.reverse
  | a :: rest =>
    let fail (n : Nat) (reason : Utf8Reason) : Except Utf8Fault (List CodePoint) :=
      .error ⟨i, i + n, a, reason⟩
    match width a, rest with
    | 1, rest => decodeFrom halves (i + 1) (Char.ofNat a.toNat :: done) rest
    | 2, b :: rest =>
      if !follows halves a b then fail 1 .badContinuation
      else decodeFrom halves (i + 2) (Char.ofNat ((a.toNat - 0xC0) * 64 + low b) :: done) rest
    | 3, b :: rest =>
      if !follows halves a b then fail 1 .badContinuation
      else match rest with
        | [] => fail 2 .endOfData
        | c :: rest =>
          if !continues c then fail 2 .badContinuation
          else decodeFrom halves (i + 3)
            (.ofNat ((a.toNat - 0xE0) * 4096 + low b * 64 + low c) :: done) rest
    | 4, b :: rest =>
      if !follows halves a b then fail 1 .badContinuation
      else match rest with
        | [] => fail 2 .endOfData
        | c :: rest =>
          if !continues c then fail 2 .badContinuation
          else match rest with
            | [] => fail 3 .endOfData
            | d :: rest =>
              if !continues d then fail 3 .badContinuation
              else decodeFrom halves (i + 4)
                (Char.ofNat ((a.toNat - 0xF0) * 262144 + low b * 4096 + low c * 64 + low d)
                  :: done) rest
    | 0, _ => fail 1 .badStart
    | _, _ => fail 1 .endOfData

end Utf8

def decodeUtf8 (bytes : List UInt8) : Except Utf8Fault (List CodePoint) :=
  Utf8.decodeFrom false 0 [] bytes

/-- Takes the halves of surrogate pairs as they come. -/
def decodeWithHalves (bytes : List UInt8) : Except Utf8Fault (List CodePoint) :=
  Utf8.decodeFrom true 0 [] bytes

/-- Every line of a file ends in a line feed: carriage returns are replaced, and
one that stands before a line feed is dropped. -/
def unifyLines : List CodePoint → List CodePoint
  | [] => []
  | .char '\r' :: .char '\n' :: cs => '\n' :: unifyLines cs
  | .char '\r' :: cs => '\n' :: unifyLines cs
  | c :: cs => c :: unifyLines cs

end NodeWalk.Text
