import NodeWalk.Graph.Violation
import NodeWalk.Json.Reader
import NodeWalk.Text.Utf8
import NodeWalk.Value.Unfolding

set_option autoImplicit false

/-!
# Faults

Everything that can stop an operation, as its cause. `Fault.message` is the one
place that words it. A message cannot be written when it has to show an integer
that is too long; reporting such a fault is itself a fault, so every operation
that raises a fault with a shown value raises `settled` of it.
-/
namespace NodeWalk

inductive Accessor where
  | get
  | set
deriving DecidableEq

def Accessor.name : Accessor → String
  | .get => "get"
  | .set => "set"

inductive Operator where
  | add
  | sub
  | mul
deriving DecidableEq

def Operator.symbol : Operator → String
  | .add => "+"
  | .sub => "-"
  | .mul => "*"

inductive Comparison where
  | eq
  | ne
  | lt
  | le
  | gt
  | ge
deriving DecidableEq

def Comparison.symbol : Comparison → String
  | .eq => "=="
  | .ne => "!="
  | .lt => "<"
  | .le => "<="
  | .gt => ">"
  | .ge => ">="

inductive PathReason where
  | missing
  | notPointer
  | badIndex (token : Text)
  | outOfRange (index : Int)
  | throughScalar
deriving DecidableEq

inductive FileProblem where
  | absent
  | present
  /-- A step of the path is to be taken in a file. -/
  | throughFile
  | isDirectory
  | nameTooLong
  | nulCharacter
deriving DecidableEq

inductive GraphFault where
  | referenceIndex (got : Unfolding)
  | referenceSocket (node : Int)
  | invalidNode (violations : List Violation)
  | invalidDocument (violations : List Violation)
  | notJson (path : String) (what : Json.Complaint) (place : Json.Place)
  | inType (type : Unfolding) (fault : GraphFault)
  | atNode (index : Nat) (fault : GraphFault)

inductive Fault where
  | unknownType (type : Text) (node : Option Int)
  | unresolved (node socket : Scalar) (parameter : Option Text)
  | invalidIndex (index : Unfolding) (nodes : Nat)
  | stepLimit (limit : Scalar)
  | invalidOutput (type : Text) (kind : Kind)
  | unbound (accessor : Accessor)
  | graph (fault : GraphFault)
  | path (path : Text) (reason : PathReason)
  | notJson (what : Json.Complaint) (place : Json.Place)
  | notUtf8 (fault : Text.Utf8Fault)
  | file (problem : FileProblem) (place : String)
  | operands (op : Operator) (left right : Kind)
  | notJoined (left right : Kind)
  | notCount (kind : Kind)
  | countTooLarge
  | textTooLong
  | joinedTooLong
  | outOfMemory
  | unordered (op : Comparison) (left right : Kind)
  | endlessComparison
  | unhashable (kind : Kind)
  | beyondFloats
  /-- An integer that would have to be written has too many digits. -/
  | integerTooLong
  /-- A numeral that would have to be read has too many digits. -/
  | numeralTooLong (digits : Nat)
  | notNumeral (text : Text)
  | missingKey (key : Text)
  | unknownComparison (op : Unfolding)
  | lacks (kind : Kind) (operation : String)
  | notIterable (kind : Kind)
  | entryNotSequence (index : Nat)
  | entryLength (index length : Nat)
  | circular
  | negativeLimit (limit : Scalar)
  | alreadyRegistered (type : Text)
  | notBehavior (type : Text)
  /-- What a behavior itself complains of. -/
  | complaint (text : Text)

inductive FaultClass where
  | named (name : String)
  | malformed
  | undecodable
  | file (problem : FileProblem)
  | type
  | value
  | overflow
  | memory
  | recursion
  | key
  | attribute
deriving DecidableEq

/-! The sentences of the faults of a run, with the texts of the shown values. -/

namespace Wording

def unknownType (type : Text) (node : Option Text) : Text :=
  let place : Text := match node with
    | some i => " at node " ++ i
    | none => ""
  "Unknown node " ++ type ++ place ++ " encountered during evaluation of behavior"

def unresolved (node socket : Text) (parameter : Option Text) : Text :=
  let target : Text := "socket '" ++ socket ++ "' of node " ++ node
  match parameter with
  | some p => "Parameter '" ++ p ++ "' references " ++ target
      ++ ", which has not been recorded in this run"
  | none => "No value recorded for " ++ target

def invalidIndex (index nodes : Text) : Text :=
  "Node index " ++ index ++ " is not valid for a graph of " ++ nodes ++ " node(s)"

def stepLimit (limit : Text) : Text :=
  "Run exceeded the step limit of " ++ limit ++ " node evaluation(s)"

def invalidOutput (type kind : Text) : Text :=
  "Node " ++ type ++ " returned an invalid output: " ++ kind

def unbound (accessor : Text) : Text :=
  "No external '" ++ accessor ++ "' callback is bound to this interpreter"

def path (path reason : Text) : Text := "External path '" ++ path ++ "' " ++ reason

def integerTooLong : String :=
  "Exceeds the limit (4300 digits) for integer string conversion; " ++
    "use sys.set_int_max_str_digits() to increase the limit"

def numeralTooLong (digits : Nat) : String :=
  "Exceeds the limit (4300 digits) for integer string conversion: value has " ++
    toString digits ++ " digits; use sys.set_int_max_str_digits() to increase the limit"

def malformed (what : Json.Complaint) (place : Json.Place) : String :=
  what.message ++ ": line " ++ toString place.line ++ " column " ++ toString place.column
    ++ " (char " ++ toString place.offset ++ ")"

def utf8Reason : Text.Utf8Reason → String
  | .badStart => "invalid start byte"
  | .badContinuation => "invalid continuation byte"
  | .endOfData => "unexpected end of data"

def notUtf8 (f : Text.Utf8Fault) : String :=
  let place :=
    if f.stop = f.start + 1 then
      "byte 0x" ++ String.ofList (Text.hex 2 f.lead.toNat) ++ " in position " ++ toString f.start
    else "bytes in position " ++ toString f.start ++ "-" ++ toString (f.stop - 1)
  "'utf-8' codec can't decode " ++ place ++ ": " ++ utf8Reason f.reason

def maxQuoted : Nat := 200

def violations : String := "<validation>"

end Wording

def PathReason.text? : PathReason → Option Text
  | .missing => some "does not exist"
  | .notPointer => some "is not a JSON pointer"
  | .badIndex token => some ("has invalid array index '" ++ token ++ "'")
  | .outOfRange index => do
    some ("has array index " ++ (← Numeral.write? index) ++ " out of range")
  | .throughScalar => some "runs through a non-container value"

def FileProblem.message (path : String) : FileProblem → String
  | .absent => "[Errno 2] No such file or directory: " ++ Text.quoted path
  | .present => "[Errno 17] File exists: " ++ Text.quoted path
  | .throughFile => "[Errno 20] Not a directory: " ++ Text.quoted path
  | .isDirectory => "[Errno 21] Is a directory: " ++ Text.quoted path
  | .nameTooLong => "[Errno 36] File name too long: " ++ Text.quoted path
  | .nulCharacter => "embedded null byte"

namespace GraphFault

def text? : GraphFault → Option Text
  | .referenceIndex got => do
    some ("Reference node index must be an integer, got " ++ (← got.shown?))
  | .referenceSocket node => do
    some ("Reference to node " ++ (← Numeral.write? node) ++ " has no socket name")
  | .invalidNode _ => some ("Invalid node: " ++ Wording.violations)
  | .invalidDocument _ => some ("Invalid graph document: " ++ Wording.violations)
  | .notJson path what place => some (path ++ ": invalid JSON: " ++ Wording.malformed what place)
  | .inType type fault => do some ("Node " ++ (← type.plain?) ++ ": " ++ (← fault.text?))
  | .atNode index fault => do some ("Node " ++ toString index ++ ": " ++ (← fault.text?))

def violations : GraphFault → List Violation
  | .invalidNode vs => vs
  | .invalidDocument vs => vs
  | .inType _ fault => fault.violations
  | .atNode _ fault => fault.violations
  | _ => []

end GraphFault

namespace Fault

/-- The message, unless it would have to show an integer that is too long. -/
def text? : Fault → Option Text
  | .unknownType type none => some (Wording.unknownType type none)
  | .unknownType type (some i) => do
    some (Wording.unknownType type (some (← Numeral.write? i)))
  | .unresolved node socket parameter => do
    some (Wording.unresolved (← node.plain?) (← socket.plain?) parameter)
  | .invalidIndex index nodes => do
    some (Wording.invalidIndex (← index.shown?) (toString nodes))
  | .stepLimit limit => do some (Wording.stepLimit (← limit.plain?))
  | .invalidOutput type kind => some (Wording.invalidOutput type kind.name)
  | .unbound accessor => some (Wording.unbound accessor.name)
  | .graph fault => fault.text?
  | .path place reason => do some (Wording.path place (← reason.text?))
  | .notJson what place => some (Wording.malformed what place)
  | .notUtf8 fault => some (Wording.notUtf8 fault)
  | .file problem place => some (problem.message place)
  | .operands op left right =>
    some ("unsupported operand type(s) for " ++ op.symbol ++ ": '" ++ left.name ++ "' and '"
      ++ right.name ++ "'")
  | .notJoined left right =>
    some ("can only concatenate " ++ left.name ++ " (not \"" ++ right.name ++ "\") to "
      ++ left.name)
  | .notCount kind => some ("can't multiply sequence by non-int of type '" ++ kind.name ++ "'")
  | .countTooLarge => some "cannot fit 'int' into an index-sized integer"
  | .textTooLong => some "repeated string is too long"
  | .joinedTooLong => some "strings are too large to concat"
  | .outOfMemory => some ""
  | .unordered op left right =>
    some ("'" ++ op.symbol ++ "' not supported between instances of '" ++ left.name ++ "' and '"
      ++ right.name ++ "'")
  | .endlessComparison => some "maximum recursion depth exceeded in comparison"
  | .unhashable kind => some ("unhashable type: '" ++ kind.name ++ "'")
  | .beyondFloats => some "int too large to convert to float"
  | .integerTooLong => some Wording.integerTooLong
  | .numeralTooLong digits => some (Wording.numeralTooLong digits)
  | .notNumeral text =>
    some ("invalid literal for int() with base 10: "
      ++ String.ofList ((Text.quoted text).toList.take Wording.maxQuoted))
  | .missingKey key => some (Text.quoted key)
  | .unknownComparison op => do
    some ("Unknown comparison '" ++ (← op.plain?)
      ++ "', expected one of ['eq', 'ge', 'gt', 'le', 'lt', 'ne']")
  | .lacks kind operation =>
    some ("'" ++ kind.name ++ "' object has no attribute '" ++ operation ++ "'")
  | .notIterable kind => some ("'" ++ kind.name ++ "' object is not iterable")
  | .entryNotSequence index =>
    some ("cannot convert dictionary update sequence element #" ++ toString index
      ++ " to a sequence")
  | .entryLength index length =>
    some ("dictionary update sequence element #" ++ toString index ++ " has length "
      ++ toString length ++ "; 2 is required")
  | .circular => some "Circular reference detected"
  | .negativeLimit limit => do
    some ("max_steps must be 0 (unbounded) or a positive integer, got " ++ (← limit.plain?))
  | .alreadyRegistered type => some ("Node type already registered: " ++ type)
  | .notBehavior type =>
    some ("Behavior for " ++ type ++ " must be a NodeBehavior or a callable")
  | .complaint text => some text

def message (f : Fault) : Text := f.text?.getD Wording.integerTooLong

/-- The fault that is raised in place of one whose message cannot be written. -/
def settled (f : Fault) : Fault := if f.text?.isSome then f else .integerTooLong

def violations : Fault → List Violation
  | .graph fault => fault.violations
  | _ => []

/-- The name under which a fault of a run is reported; other faults have none. -/
def name? : Fault → Option String
  | .unknownType .. => some "UnknownNodeType"
  | .unresolved .. => some "UnresolvedReference"
  | .invalidIndex .. => some "InvalidGraphStructure"
  | .stepLimit .. => some "StepLimitExceeded"
  | .invalidOutput .. => some "InvalidNodeOutput"
  | .unbound .. => some "BindingUnavailable"
  | .graph .. => some "GraphParseError"
  | .path .. => some "ExternalPathError"
  | _ => none

/-- The class of a fault, whatever its message says. -/
def toClass (f : Fault) : FaultClass :=
  match f.name? with
  | some name => .named name
  | none =>
    match f with
    | .notJson .. => .malformed
    | .notUtf8 _ => .undecodable
    | .file .nulCharacter _ => .value
    | .file problem _ => .file problem
    | .operands .. | .notJoined .. | .notCount _ | .unordered .. | .unhashable _
    | .notIterable _ | .entryNotSequence _ | .notBehavior _ => .type
    | .countTooLarge | .textTooLong | .joinedTooLong | .beyondFloats => .overflow
    | .outOfMemory => .memory
    | .endlessComparison => .recursion
    | .missingKey _ => .key
    | .lacks .. => .attribute
    | _ => .value

end Fault
end NodeWalk
