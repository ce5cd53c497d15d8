import NodeWalk.Text.Utf8

set_option autoImplicit false

/-!
# Encodings of a document

A document that comes as octets may start with a byte order mark. Else it starts
with two characters below U+0100, if it is one, so the zeros among its first octets
show in units of how many octets it is written, and in which order. Where they show
none, it is UTF-8. Halves of surrogate pairs pass in all encodings.
-/
namespace NodeWalk.Json

inductive ByteOrder where
  | high
  | low
deriving DecidableEq

inductive Encoding where
  | octets
  | pairs (first : ByteOrder)
  | quads (first : ByteOrder)
deriving DecidableEq

namespace Encoding

def ofZeros : List UInt8 → Encoding
  | [a, b] => if a = 0 then .pairs .high else if b = 0 then .pairs .low else .octets
  | a :: b :: c :: d :: _ =>
    if a = 0 then (if b = 0 then .quads .high else .pairs .high)
    else if b = 0 then (if c = 0 && d = 0 then .quads .low else .pairs .low)
    else .octets
  | _ => .octets

def ofOctets (bytes : List UInt8) : Encoding × Nat :=
  if [0x00, 0x00, 0xFE, 0xFF].isPrefixOf bytes then (.quads .high, 4)
  else if [0xFF, 0xFE, 0x00, 0x00].isPrefixOf bytes then (.quads .low, 4)
  else if [0xFE, 0xFF].isPrefixOf bytes then (.pairs .high, 2)
  else if [0xFF, 0xFE].isPrefixOf bytes then (.pairs .low, 2)
  else if [0xEF, 0xBB, 0xBF].isPrefixOf bytes then (.octets, 3)
  else (ofZeros bytes, 0)

def pairUnits (first : ByteOrder) : List UInt8 → Option (List Nat)
  | [] => some []
  | [_] => none
  | a :: b :: rest => do
    let (high, low) := if first = .high then (a, b) else (b, a)
    some ((256 * high.toNat + low.toNat) :: (← pairUnits first rest))

def quadUnits (first : ByteOrder) : List UInt8 → Option (List Nat)
  | [] => some []
  | a :: b :: c :: d :: rest => do
    let (high, low) := if first = .high then ((a, b), (c, d)) else ((d, c), (b, a))
    let unit := (256 * high.1.toNat + high.2.toNat) * 65536 + 256 * low.1.toNat + low.2.toNat
    some (unit :: (← quadUnits first rest))
  | _ => none

end Encoding

def decode (bytes : List UInt8) : Option (List CodePoint) :=
  let (encoding, mark) := Encoding.ofOctets bytes
  let bytes := bytes.drop mark
  match encoding with
  | .pairs first => do
    some (CodePoint.joined ((← Encoding.pairUnits first bytes).map .ofNat))
  | .quads first => do
    let units ← Encoding.quadUnits first bytes
    if units.all (· < 0x110000) then some (units.map .ofNat) else none
  | .octets => (Text.decodeWithHalves bytes).toOption

end NodeWalk.Json
