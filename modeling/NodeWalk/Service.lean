import NodeWalk.Graph.Form
import NodeWalk.Json.Encoding
import NodeWalk.Run.BuiltIn
import NodeWalk.Run.Interpreter
import NodeWalk.Service.Target
import NodeWalk.Settings
import NodeWalk.WorldFile

set_option autoImplicit false

/-!
# The service

Requests and their responses: what the service is, how it is, which node types
there are, and runs of a graph over a world that comes with the request. A run
that a user can get wrong by the graph is refused with 422, any other fault with
500, and what cannot be put into a response cannot be answered at all.
-/
namespace NodeWalk.Service

def version : String := "0.1.0"

structure Request where
  method : String
  target : Target
  body : List UInt8

inductive Body where
  | document (j : Json)
  | text (s : String)

structure Response where
  status : Nat
  body : Body
  log : List Notice

def document (status : Nat) (j : Json) : Response := ⟨status, .document j, []⟩

def detail (status : Nat) (j : Json) : Response := document status (.object [("detail", j)])

def internalError : Response := ⟨500, .text "Internal Server Error", []⟩

/-- Numbers that documents have no digits for become `blank`, if that is anything. Only whole
texts can be encoded. -/
def scalar? (blank : Option Scalar) : Scalar → Option Scalar
  | .float x => if x.isNaN || x.isInfinite then blank else some (.float x)
  | .int n => if Numeral.writable n then some (.int n) else none
  | .text s => if s.isWhole then some (.text s) else none
  | s => some s

section

variable (blank : Option Scalar)

mutual

/-- The document of a tree, unless it cannot be put into a response. -/
def rendered? : Unfolding → Option Json
  | .scalar s => (scalar? blank s).map .scalar
  | .array items => (items? items).map .array
  | .object entries => (entries? entries).map .object
  | .back _ _ => none

def items? : List Unfolding → Option (List Json)
  | [] => some []
  | t :: ts => do some ((← rendered? t) :: (← items? ts))

def entries? : List (Text × Unfolding) → Option (List (Text × Json))
  | [] => some []
  | (k, t) :: es => do
    let j ← rendered? t
    let js ← entries? es
    if k.isWhole then some ((k, j) :: js) else none

end

end

def stepDocument : Step → Json
  | .key k => .text k
  | .index i => .int i

def violationDocument (v : Violation) : Json :=
  .object [("type", .text v.rule.code), ("loc", .array (v.place.map stepDocument)),
    ("msg", .text v.rule.message)]

def refused (violations : List Violation) : Response :=
  detail 422 (.array (violations.map violationDocument))

def valueAt (h : Objects) : List Step → Value → Option Value
  | [], v => some v
  | .key k :: steps, v => do valueAt h steps (← Entries.get? k (← h.entries? v))
  | .index i :: steps, v => do valueAt h steps (← (← h.items? v)[i]?)

/-- The value that a violation is about. What is missing, is missing in a record. -/
def subject (h : Objects) (request : Value) (v : Violation) : Option Value :=
  let place := v.place.drop 1
  valueAt h (if v.rule = .missing then place.dropLast else place) request

/-- A refusal comes with what each violation is about, so that must have a form as well. -/
def refusal (h : Objects) (request : Value) (violations : List Violation) : Response :=
  let subjects := violations.filterMap (subject h request)
  if subjects.all fun v => (rendered? none (h.unfold v)).isSome then refused violations
  else internalError

structure RunParts where
  entry : Int
  nodes : List Form.NodeParts
  world : Option Value
  ceiling : Option Int

def worldField (h : Objects) : Option Value → Checked (Option Value)
  | none => .ok none
  | some v => (Form.objectOf h v).map fun _ => some v

def checkRun (h : Objects) (v : Value) : Checked RunParts :=
  Checked.within [.key "body"] <|
    match h.entries? v with
    | none => .violated (.record .request)
    | some fields =>
      ((((Form.field fields "entry" (Form.integerOr 0)).both
          (Form.field fields "nodes" (Form.checkNodes h .request))).both
        (Form.field fields "world" (worldField h))).both
          (Form.field fields "max_steps" Form.optionalCeiling)).map
        fun p => ⟨p.1.1.1, p.1.1.2, p.1.2, p.2⟩

def given (field : Option Value) (h : Objects) : Value × Objects :=
  match field with
  | some v => (v, h)
  | none => h.newObject []

/-- The record of checked parts has all the fields of a node, and no others. -/
def nodeRecord (parts : Form.NodeParts) (h : Objects) : Value × Objects :=
  let (parameters, h) := given parts.parameters h
  let (flow, h) := given parts.flow h
  h.newObject [(↑"type", .text parts.type), (↑"parameters", parameters), (↑"flow", flow)]

def nodeRecords : List Form.NodeParts → Objects → List Value × Objects
  | [], h => ([], h)
  | parts :: more, h =>
    let (record, h) := nodeRecord parts h
    let (records, h) := nodeRecords more h
    (record :: records, h)

def graphRecord (parts : RunParts) (h : Objects) : Value × Objects :=
  let (records, h) := nodeRecords parts.nodes h
  let (nodes, h) := h.newArray records
  h.newObject [(↑"entry", .int parts.entry), (↑"nodes", nodes)]

/-- A graph document that is made for the run alone. -/
def graphDocument (parts : RunParts) (h : Objects) : Value × Objects :=
  let (document, h) := graphRecord parts h
  h.copy document

/-- How the handler of a run ends: it returns the document, or raises an answer. -/
inductive Outcome where
  | returned (world : Value)
  | raised (status : Nat) (detail : Json)

/-- Tells of a fault and reports it. -/
def rejected (f : Fault) (s : Store) : Outcome × Store :=
  let reporting (level : Level) (text : Text) : Store :=
    { s with log := s.log.push ⟨level, .service, text, false⟩ }
  match f.name? with
  | some name =>
    (.raised 422 (.object [(↑"error", .text name), (↑"message", .text f.message)]),
      reporting .warning ("Behavior run rejected: " ++ f.message))
  | none =>
    (.raised 500 (.text f.message), reporting .error ("Behavior run failed: " ++ f.message))

/-- Opens the world of a checked request, and parses its graph document beside it. -/
def prepare (h : Objects) (parts : RunParts) : Except Fault Graph × Store :=
  let store := WorldFile.ofValue (parts.world.getD .null) h
  let (document, h) := graphDocument parts store.objects
  (Graph.parse h document, { store with objects := h })

/-- Runs the graph of a checked request. There is no outcome where the run has not ended within its
turns. -/
def handle (settings : Settings) (turns : Nat) (h : Objects) (parts : RunParts) :
    Option (Outcome × Store) :=
  match prepare h parts with
  | (.error f, store) => some (rejected f store)
  | (.ok graph, store) =>
    match Ceiling.ofScalar (.int (parts.ceiling.getD settings.maxSteps)) with
    | .error f => some (rejected f store)
    | .ok ceiling =>
      let i : Interpreter := ⟨.builtIn, .full, ceiling⟩
      match i.run turns (.int graph.entry) (.list (graph.nodes.map Node.source))
          ⟨store, .empty⟩ with
      | (.unfinished _ _, _) => none
      | (.failed _ f, s) => some (rejected f s.store)
      | (.halted _, s) =>
        let (world, h) := s.store.objects.copy s.store.root
        some (.returned world, { s.store with objects := h })

def response : Outcome × Store → Response
  | (outcome, s) =>
    let response := match outcome with
      | .returned world =>
        match rendered? (some .null) (s.objects.unfold world) with
        | some world =>
          document 200 (.object [(↑"status", .text "halted"), (↑"world", world)])
        | none => internalError
      | .raised status told =>
        if (rendered? none told.unfolding).isSome then detail status told else internalError
    { response with log := s.log.toList }

def runJson (settings : Settings) (turns : Nat) (j : Json) : Option Response :=
  let (v, h) := Objects.empty.load j
  match checkRun h v with
  | .error violations => some (refusal h v violations)
  | .ok parts => (handle settings turns h parts).map response

def unreadable : Response := detail 400 (.text "There was an error parsing the body")

def runBody (settings : Settings) (turns : Nat) (body : List UInt8) : Option Response :=
  if body.isEmpty then some (refused [⟨.missing, [.key "body"]⟩])
  else match Json.decode body with
    | none => some unreadable
    | some text =>
      match Json.readWhole text with
      | .ok j => runJson settings turns j
      | .error (.malformed _ left) =>
        some (refused [⟨.wellFormedBody, [.key "body", .index (text.length - left)]⟩])
      | .error (.integerTooLong _) => some unreadable

inductive Route where
  | root
  | health
  | nodes
  | run
deriving DecidableEq

namespace Route

def path : Route → String
  | .root => "/"
  | .health => "/health"
  | .nodes => "/api/v1/nodes"
  | .run => "/api/v1/behavior/run"

def method : Route → String
  | .run => "POST"
  | _ => "GET"

def all : List Route := [.root, .health, .run, .nodes]

/-- The path with its trailing slashes taken off, or with one put on. -/
def redirected (path : String) : String :=
  let cs := path.toList
  if cs.getLast? = some '/' then String.ofList (cs.reverse.dropWhile (· = '/')).reverse
  else path ++ "/"

/-- The route of a path; a path that only differs in a trailing slash is redirected. -/
def find? (path : String) : Option Route :=
  match all.find? (·.path = path) with
  | some route => some route
  | none => if path = "/" then none else all.find? (·.path = redirected path)

end Route

def serviceDocument : Json :=
  .object [("service", .text "Behavior Core"), ("version", .text version),
    ("status", .text "running")]

def healthDocument (settings : Settings) : Json :=
  .object [("status", .text "healthy"), ("max_steps", .int settings.maxSteps)]

def nodesDocument (registry : Registry) (category : Option String) : Json :=
  let types := match category with
    | some c => registry.nodeTypesOf c
    | none => registry.nodeTypes
  .object [("node_types", .array (types.map .text))]

/-- The last value of a query field counts. -/
def Request.field? (r : Request) (key : String) : Option String :=
  r.target.query.reverse.lookup key

/-- Answers a request; a run may take so many turns. A request for the head of a
response gets no body. -/
def respond (settings : Settings) (turns : Nat) (r : Request) : Option Response :=
  match Route.find? r.target.path with
  | none => answered (detail 404 (.text "Not Found"))
  | some route =>
    if route.method ≠ r.method then answered (detail 405 (.text "Method Not Allowed"))
    else match route with
      | .root => some (document 200 serviceDocument)
      | .health => some (document 200 (healthDocument settings))
      | .nodes => some (document 200 (nodesDocument .builtIn (r.field? "category")))
      | .run => runBody settings turns r.body
where
  answered (response : Response) : Option Response :=
    some (if r.method = "HEAD" then { response with body := .text "" } else response)

end NodeWalk.Service
