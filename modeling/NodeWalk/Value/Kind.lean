set_option autoImplicit false

/-!
# Kinds of values

The kinds that messages speak of, with the names they use. `output` is the kind
of a finished node output, which is no value of a document.
-/
namespace NodeWalk

inductive Kind where
  | null
  | bool
  | int
  | float
  | text
  | array
  | object
  | output
deriving DecidableEq, Inhabited

def Kind.name : Kind → String
  | .null => "NoneType"
  | .bool => "bool"
  | .int => "int"
  | .float => "float"
  | .text => "str"
  | .array => "list"
  | .object => "dict"
  | .output => "NodeOutput"

end NodeWalk
