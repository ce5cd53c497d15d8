import NodeWalk.Json.Reader
import NodeWalk.Text.Utf8

set_option autoImplicit false

/-!
# Targets of requests

A target is a path and, behind a question mark, the fields of a query. In both, a
percent sign and two hexadecimal digits stand for an octet; in a query a plus sign
stands for a space. What follows a number sign does not belong to the target.
-/
namespace NodeWalk.Service

structure Target where
  path : String
  query : List (String × String)
deriving DecidableEq

namespace Target

/-- A percent sign that no two hexadecimal digits follow stands for itself. -/
def octets : List Char → List UInt8
  | '%' :: a :: b :: rest =>
    match Json.hexValue? a, Json.hexValue? b with
    | some high, some low => UInt8.ofNat (16 * high + low) :: octets rest
    | _, _ => '%'.toNat.toUInt8 :: octets (a :: b :: rest)
  | c :: rest => (String.singleton c).toUTF8.toList ++ octets rest
  | [] => []

/-- A text whose octets are not well formed stays as it is written. -/
def decoded (cs : List Char) : String :=
  match Text.decodeUtf8 (octets cs) with
  | .ok decoded => Text.visible ⟨decoded⟩
  | .error _ => String.ofList cs

def field (cs : List Char) : String × String :=
  let text (cs : List Char) : String := decoded (cs.map fun c => if c = '+' then ' ' else c)
  (text (cs.takeWhile (· != '=')), text ((cs.dropWhile (· != '=')).drop 1))

def fields (cs : List Char) : List (String × String) :=
  ((String.ofList cs).splitOn "&").filterMap fun s =>
    if s = "" then none else some (field s.toList)

/-- A path starts with a slash, written or not. -/
def ofText (text : String) : Target :=
  let cs := text.toList.takeWhile (· != '#')
  let path := decoded (cs.takeWhile (· != '?'))
  ⟨if path.startsWith "/" then path else "/" ++ path, fields ((cs.dropWhile (· != '?')).drop 1)⟩

end Target
end NodeWalk.Service
