import NodeWalk.Run.Registry
import NodeWalk.Value.Arithmetic
import NodeWalk.Value.Compare

set_option autoImplicit false

/-!
# Built-in behaviors

Arithmetic, comparison, branching and access to the document. Each puts out at
most the socket `out` and names its successor from its own control data. Only
`world.set` writes to anything that was there before.
-/
namespace NodeWalk.BuiltIn

open Call

/-- A documentation of several lines, each set in by four blanks. -/
def paragraphs (lines : List String) : String :=
  "\n" ++ String.join (lines.map fun l => (if l = "" then "" else "    " ++ l) ++ "\n") ++ "    "

def putOut (c : Call) (v : Value) : StoreM Reply := do
  finish [("out", v)] (← c.successor "next")

def binary (operation : Objects → Value → Value → Objects.Computed) (c : Call) :
    StoreM Reply := do
  let a ← c.required "a"
  let b ← c.required "b"
  let (v, h) ← StoreM.ofExcept (operation (← StoreM.objects) a b)
  StoreM.setObjects h
  putOut c v

def const : Registered where
  label := "ConstantNode"
  doc := some (paragraphs
    ["Emits a constant value", "", "Parameters:", "    value: Any value", "", "Outputs:",
     "    out: The value"])
  behave c := do putOut c (← c.optional "value")

def add : Registered where
  label := "AddNode"
  doc := some "out = a + b"
  behave := binary Objects.add

def sub : Registered where
  label := "SubtractNode"
  doc := some "out = a - b"
  behave := binary Objects.sub

def mul : Registered where
  label := "MultiplyNode"
  doc := some "out = a * b"
  behave := binary Objects.mul

def double : Registered where
  label := "DoubleNode"
  doc := some "out = 2 * x"
  behave c := do
    let x ← c.required "x"
    let (v, h) ← StoreM.ofExcept ((← StoreM.objects).double x)
    StoreM.setObjects h
    putOut c v

def comparisons : Entries Comparison :=
  [("eq", .eq), ("ne", .ne), ("lt", .lt), ("le", .le), ("gt", .gt), ("ge", .ge)]

/-- The comparison with a name; only a scalar can be asked for. -/
def comparison (h : Objects) (op : Value) : Except Fault Comparison :=
  match op with
  | .text s =>
    match Entries.get? s comparisons with
    | some c => .ok c
    | none => .error (.unknownComparison (.scalar (.text s)))
  | .scalar s => .error (.unknownComparison (.scalar s))
  | .ref _ => .error (.unhashable (h.kind op))

def compare : Registered where
  label := "CompareNode"
  doc := some (paragraphs
    ["Compares two values", "", "Parameters:", "    a: Left operand", "    b: Right operand",
     "    op: One of eq, ne, lt, le, gt, ge (default: eq)", "", "Outputs:",
     "    out: Comparison result (bool)"])
  behave c := do
    let h ← StoreM.objects
    let op := ((h.entries? c.parameters).bind (Entries.get? "op")).getD (.text "eq")
    let op ← StoreM.ofExcept (comparison h op)
    let a ← c.required "a"
    let b ← c.required "b"
    let answer ← StoreM.ofExcept (h.compares op a b)
    putOut c (.bool answer)

def branch : Registered where
  label := "BranchNode"
  doc := some (paragraphs
    ["Conditional branch", "", "Parameters:", "    condition: Truthy or falsy value", "",
     "Flow:", "    true: Successor when condition is truthy",
     "    false: Successor when condition is falsy", "", "A missing target halts the run."])
  behave c := do
    let condition ← c.optional "condition"
    let taken := if (← StoreM.objects).isTrue condition then "true" else "false"
    finish [] (← c.successor taken)

def noop : Registered where
  label := "NoopNode"
  doc := some "Does nothing and continues with flow.next"
  behave c := do finish [] (← c.successor "next")

def worldGet : Registered where
  label := "WorldGetNode"
  doc := some (paragraphs
    ["Reads a value from the host", "", "Parameters:",
     "    path: Path of the value in the host document (e.g. \"/nodes/0/translation\")", "",
     "Outputs:", "    out: The value read"])
  behave c := do putOut c (← c.getDocument (← c.required "path"))

def worldSet : Registered where
  label := "WorldSetNode"
  doc := some (paragraphs
    ["Writes a value to the host", "", "Parameters:",
     "    path: Path of the value in the host document", "    value: Value to write"])
  behave c := do
    let path ← c.required "path"
    c.setDocument path (← c.optional "value")
    finish [] (← c.successor "next")

def all : Entries Registered :=
  [("math.const", const), ("math.add", add), ("math.sub", sub), ("math.mul", mul),
   ("math.double", double), ("logic.compare", compare), ("flow.branch", branch),
   ("flow.noop", noop), ("world.get", worldGet), ("world.set", worldSet)]

end NodeWalk.BuiltIn

namespace NodeWalk

def Registry.builtIn : Registry := ⟨BuiltIn.all⟩

/-- The built-in behaviors under their types, to tell them apart by. -/
inductive BuiltIn.Named : Text → Registered → Prop where
  | const : Named "math.const" const
  | add : Named "math.add" add
  | sub : Named "math.sub" sub
  | mul : Named "math.mul" mul
  | double : Named "math.double" double
  | compare : Named "logic.compare" compare
  | branch : Named "flow.branch" branch
  | noop : Named "flow.noop" noop
  | worldGet : Named "world.get" worldGet
  | worldSet : Named "world.set" worldSet

theorem Registry.named_of_get? {type : Text} {b : Registered}
    (h : Registry.builtIn.get? type = some b) : BuiltIn.Named type b := by
  have hmem : (type, b) ∈ BuiltIn.all := Entries.mem_of_get? h
  simp only [BuiltIn.all, List.mem_cons, Prod.mk.injEq, List.not_mem_nil, or_false] at hmem
  rcases hmem with ⟨rfl, rfl⟩ | ⟨rfl, rfl⟩ | ⟨rfl, rfl⟩ | ⟨rfl, rfl⟩ | ⟨rfl, rfl⟩ | ⟨rfl, rfl⟩ |
    ⟨rfl, rfl⟩ | ⟨rfl, rfl⟩ | ⟨rfl, rfl⟩ | ⟨rfl, rfl⟩
  · exact .const
  · exact .add
  · exact .sub
  · exact .mul
  · exact .double
  · exact .compare
  · exact .branch
  · exact .noop
  · exact .worldGet
  · exact .worldSet

end NodeWalk
