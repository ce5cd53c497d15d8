import NodeWalk.Json.Basic
import NodeWalk.Value.Unfolding

set_option autoImplicit false

/-!
# Writing documents

A document is written in plain characters, two spaces deeper at each level, the
entries of an object in their order. Writing goes from front to back and stops
at the first integer that is too long and at the first container inside itself;
what was written before that place is kept.
-/
namespace NodeWalk

namespace Json

def escapePoint : CodePoint → List Char
  | .char c =>
    if c = '"' ∨ c = '\\' then ['\\', c]
    else if c = '\n' then ['\\', 'n']
    else if c = '\r' then ['\\', 'r']
    else if c = '\t' then ['\\', 't']
    else if c = '\x0c' then ['\\', 'f']
    else if c = '\x08' then ['\\', 'b']
    else if 0x20 ≤ c.toNat ∧ c.toNat < 0x7F then [c]
    else if c.toNat < 0x10000 then '\\' :: 'u' :: Text.hex 4 c.toNat
    else
      let rest := c.toNat - 0x10000
      '\\' :: 'u' :: Text.hex 4 (0xD800 + rest / 0x400)
        ++ '\\' :: 'u' :: Text.hex 4 (0xDC00 + rest % 0x400)
  | half => '\\' :: 'u' :: Text.hex 4 half.toNat

def escaped (s : Text) : String :=
  String.ofList ('"' :: s.points.flatMap escapePoint ++ ['"'])

end Json

/-- The text of a scalar in a document, unless it is an integer that is too long. -/
def Scalar.document? : Scalar → Option String
  | .null => some "null"
  | .bool b => some (if b then "true" else "false")
  | .int n => Numeral.write? n
  | .float x => some (x.write .document)
  | .text s => some (Json.escaped s)

namespace Unfolding

inductive WriteError where
  | circular
  | integerTooLong
deriving DecidableEq

/-- Writing that stopped, with what it had written. -/
structure Broken where
  written : String
  error : WriteError

def newLine (depth : Nat) : String := "\n" ++ String.ofList (List.replicate (2 * depth) ' ')

mutual

/-- Appends `lead` and the value to `out`, the lines of the value at `depth`. A
scalar and its lead are one piece, written together or not at all. -/
def writeAt (depth : Nat) (out lead : String) : Unfolding → Except Broken String
  | .scalar s =>
    match s.document? with
    | some t => .ok (out ++ lead ++ t)
    | none => .error ⟨out, .integerTooLong⟩
  | .back _ _ => .error ⟨out ++ lead, .circular⟩
  | .array [] => .ok (out ++ lead ++ "[]")
  | .array (t :: ts) => do
    let out ← writeAt (depth + 1) (out ++ lead) ("[" ++ newLine (depth + 1)) t
    let out ← writeItems (depth + 1) out ts
    .ok (out ++ newLine depth ++ "]")
  | .object [] => .ok (out ++ lead ++ "\x7b\x7d")
  | .object ((k, t) :: es) => do
    let key := "\x7b" ++ newLine (depth + 1) ++ Json.escaped k ++ ": "
    let out ← writeAt (depth + 1) (out ++ lead ++ key) "" t
    let out ← writeMembers (depth + 1) out es
    .ok (out ++ newLine depth ++ "\x7d")

def writeItems (depth : Nat) (out : String) : List Unfolding → Except Broken String
  | [] => .ok out
  | t :: ts => do writeItems depth (← writeAt depth out ("," ++ newLine depth) t) ts

def writeMembers (depth : Nat) (out : String) :
    List (Text × Unfolding) → Except Broken String
  | [] => .ok out
  | (k, t) :: es => do
    let key := "," ++ newLine depth ++ Json.escaped k ++ ": "
    writeMembers depth (← writeAt depth (out ++ key) "" t) es

end

def write (t : Unfolding) : Except Broken String := writeAt 0 "" "" t

end Unfolding

namespace Json

mutual

def unfolding : Json → Unfolding
  | .scalar s => .scalar s
  | .array items => .array (unfoldings items)
  | .object entries => .object (memberUnfoldings entries)

def unfoldings : List Json → List Unfolding
  | [] => []
  | j :: js => unfolding j :: unfoldings js

def memberUnfoldings : List (Text × Json) → List (Text × Unfolding)
  | [] => []
  | (k, j) :: es => (k, unfolding j) :: memberUnfoldings es

end

theorem unfoldings_eq (items : List Json) : unfoldings items = items.map unfolding := by
  induction items with
  | nil => rfl
  | cons j js ih => rw [unfoldings, ih, List.map_cons]

theorem memberUnfoldings_eq (entries : List (Text × Json)) :
    memberUnfoldings entries = entries.map fun e => (e.1, unfolding e.2) := by
  induction entries with
  | nil => rfl
  | cons e es ih => rw [memberUnfoldings, ih, List.map_cons]

theorem keys_memberUnfoldings (entries : List (Text × Json)) :
    Entries.keys (memberUnfoldings entries) = Entries.keys entries := by
  rw [memberUnfoldings_eq, Entries.keys, List.map_map]
  rfl

end Json
end NodeWalk
