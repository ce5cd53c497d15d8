import NodeWalk.CommandLine.Arguments
import NodeWalk.CommandLine.Screen
import NodeWalk.Graph.File
import NodeWalk.Run.BuiltIn
import NodeWalk.Run.Interpreter
import NodeWalk.WorldFile

set_option autoImplicit false

/-!
# The command line

Three commands: `run` runs a graph file over a world file, `nodes` lists the
node types, `serve` names the address of the service. `execute` says all that a
call puts out and writes. It has no answer only while a run has not ended within
its turns. Faults of the kinds that a user can cause by a graph are printed, as
are unreadable files; any other fault escapes the command.
-/
namespace NodeWalk.CommandLine

structure Outcome where
  exitCode : Nat
  out : String
  err : String
  log : List Notice
  /-- The files written, in order. -/
  written : List WorldFile.Written
  served : List (String × Int)
  escaped : Option Fault

namespace Outcome

def nothing : Outcome := ⟨0, "", "", [], [], [], none⟩

def printed (text : String) : Outcome := { nothing with out := text }

def escaping (f : Fault) : Outcome := { nothing with exitCode := 1, escaped := some f }

def refused (c : Command) : Refusal → Outcome
  | .nulCharacter path => escaping (.file .nulCharacter path)
  | r => { nothing with exitCode := 2, err := r.report c }

def failed (text : Text) : Outcome :=
  { nothing with exitCode := 1, err := "Error: " ++ text.visible ++ "\n" }

/-- Faults of reading a file that are reported without their name. -/
def isFileFault : Fault → Bool
  | .file .nulCharacter _ => false
  | .file .. | .notJson .. => true
  | _ => false

def ofFault (f : Fault) : Outcome :=
  match f.name? with
  | some name =>
    { nothing with
      exitCode := 1
      out := Screen.text ("[bold red]✗[/bold red] " ++ name ++ ": " ++ Screen.verbatim f.message) }
  | none =>
    if isFileFault f then failed f.message else escaping f

/-- Only notices for the user are shown. -/
def logging (log : List Notice) (o : Outcome) : Outcome :=
  { o with log := log.filter fun n => Level.info.severity ≤ n.level.severity }

end Outcome

def help : Flag := ⟨"--help", false⟩

def group : Command := ⟨"cli", "[OPTIONS] COMMAND [ARGS]...", [help], none⟩

def run : Command :=
  ⟨"cli run", "[OPTIONS] GRAPH_FILE",
    [⟨"--entry", true⟩, ⟨"--world", true⟩, ⟨"--max-steps", true⟩, ⟨"--save", false⟩, help],
    some "GRAPH_FILE"⟩

def nodes : Command := ⟨"cli nodes", "[OPTIONS]", [⟨"--category", true⟩, help], none⟩

def serve : Command :=
  ⟨"cli serve", "[OPTIONS]", [⟨"--port", true⟩, ⟨"--host", true⟩, help], none⟩

def Command.usage (c : Command) : String := "Usage: " ++ c.call ++ " " ++ c.synopsis ++ "\n"

structure RunRequest where
  graphFile : String
  entry : Option Int
  world : Option String
  ceiling : Option Int
  save : Bool
deriving DecidableEq

namespace RunRequest

def option (disk : Disk) (r : RunRequest) :
    String × Option String → Except Refusal RunRequest
  | ("--entry", some v) => do .ok { r with entry := some (← integer "--entry" v) }
  | ("--world", some v) => do .ok { r with world := some (← possibleFile disk "--world" v) }
  | ("--max-steps", some v) => do .ok { r with ceiling := some (← nonnegative "--max-steps" v) }
  | ("--save", _) => .ok { r with save := true }
  | _ => .ok r

def ofParsed (disk : Disk) (p : Parsed) : Except Refusal RunRequest := do
  let r ← p.settled.foldlM (option disk) ⟨"", none, none, none, false⟩
  match p.rest with
  | [] => .error (.missingArgument "GRAPH_FILE")
  | path :: more =>
    let path ← existingFile disk "GRAPH_FILE" path
    noMore more
    .ok { r with graphFile := path }

end RunRequest

def finish (disk : Disk) (world : Option String) (title : Text) (save : Bool) (s : Store) :
    Outcome :=
  let (written, fault, s) : List WorldFile.Written × Option Fault × Store :=
    match world, save with
    | some path, true =>
      let (saved, s) := WorldFile.save disk path s
      (saved.written.toList, saved.fault, s)
    | _, _ => ([], none, s)
  let o : Outcome :=
    match fault, (s.objects.unfold s.root).write with
    | some f, _ => .escaping f
    | none, .error broken => .escaping broken.error.fault
    | none, .ok text =>
      .printed (Screen.panel
        ("[bold cyan]World after " ++ Screen.verbatim title ++ "[/bold cyan]") text)
  { o.logging s.log.toList with written := written }

def runGraph (settings : Settings) (disk : Disk) (turns : Nat) (r : RunRequest) :
    Option Outcome :=
  let world := r.world.filter (· != "") <|> settings.worldPath?
  if !settings.valid then
    some ((Outcome.failed
      "Configuration validation failed. Please check your environment variables.").logging
        settings.complaints)
  else if r.save && world.isNone then some (.refused run .saveWithoutWorld)
  else
    match Graph.load disk r.graphFile .empty with
    | (.error f, _) => some (.ofFault f)
    | (.ok graph, h) =>
      let opened := match world with
        | some path => WorldFile.load disk path h
        | none => .ok (WorldFile.ofValue .null h)
      match opened with
      | .error f => some (.ofFault f)
      | .ok store =>
        match Ceiling.ofScalar (.int (r.ceiling.getD settings.maxSteps)) with
        | .error f => some (.ofFault f)
        | .ok ceiling =>
          let i : Interpreter := ⟨.builtIn, .full, ceiling⟩
          let entry : Value := .int (r.entry.getD graph.entry)
          match i.run turns entry (.list (graph.nodes.map Node.source)) ⟨store, .empty⟩ with
          | (.unfinished _ _, _) => none
          | (.failed _ f, s) => some ((Outcome.ofFault f).logging s.store.log.toList)
          | (.halted _, s) =>
            let title := (graph.name.filter fun name : Text => name != "").getD r.graphFile
            some (finish disk world title r.save s.store)

def summary (doc : Option String) : String :=
  String.ofList ((Text.trim (fun c : Char => Text.isBlank c) (doc.getD "").toList).takeWhile
    (· != '\n'))

def listNodes (registry : Registry) (category : Option String) : Outcome :=
  let types := match category with
    | some c => registry.nodeTypesOf c
    | none => registry.nodeTypes
  let row (type : Text) : List String :=
    [type.visible, summary ((registry.get? type).bind (·.doc))]
  .printed (Screen.table (["Type", "Description"] :: types.map row))

structure ServeRequest where
  port : Option Int
  host : Option String
deriving DecidableEq

namespace ServeRequest

def option (r : ServeRequest) : String × Option String → Except Refusal ServeRequest
  | ("--port", some v) => do .ok { r with port := some (← integer "--port" v) }
  | ("--host", v) => .ok { r with host := v }
  | _ => .ok r

def ofParsed (p : Parsed) : Except Refusal ServeRequest := do
  let r ← p.settled.foldlM option ⟨none, none⟩
  noMore p.rest
  .ok r

end ServeRequest

/-- An empty host and the port 0 stand for the configured ones. -/
def startService (settings : Settings) (r : ServeRequest) : Outcome :=
  if !settings.valid then
    (Outcome.failed
      "Configuration validation failed. Please check your environment variables.").logging
        settings.complaints
  else
    let host := (r.host.filter (· != "")).getD settings.host
    let port := (r.port.filter (· != 0)).getD settings.port
    { Outcome.printed ("Starting Behavior Core API server on " ++ host ++ ":" ++ toString port
        ++ "\n") with
      served := [(host, port)] }

def parsed (c : Command) (args : List String) (next : Parsed → Except Refusal (Option Outcome)) :
    Option Outcome :=
  match parse c.flags args with
  | .error r => some (.refused c r)
  | .ok p =>
    if p.asksForHelp then some (.printed c.usage)
    else match next p with
      | .error r => some (.refused c r)
      | .ok o => o

/-- A name that is no command may still be an option behind a first `--`. -/
def unknownCommand (name : String) (args : List String) : Outcome :=
  match parseFront group.flags (name :: args) with
  | .error r => .refused group r
  | .ok p =>
    if p.asksForHelp then .printed group.usage
    else .refused group (.noSuchCommand name (Text.closest name ["nodes", "run", "serve"]))

def dispatch (settings : Settings) (disk : Disk) (turns : Nat) :
    List String → Option Outcome
  | [] => some (.refused group .missingCommand)
  | "run" :: args => parsed run args fun p => do
    .ok (runGraph settings disk turns (← RunRequest.ofParsed disk p))
  | "nodes" :: args => parsed nodes args fun p => do
    noMore p.rest
    .ok (some (listNodes .builtIn ((p.settled.lookup "--category").join)))
  | "serve" :: args => parsed serve args fun p => do
    .ok (some (startService settings (← ServeRequest.ofParsed p)))
  | name :: args => some (unknownCommand name args)

def execute (settings : Settings) (disk : Disk) (turns : Nat) (args : List String) :
    Option Outcome :=
  match args with
  | [] => some { Outcome.nothing with exitCode := 2, err := group.usage }
  | _ =>
    match parseFront group.flags args with
    | .error r => some (.refused group r)
    | .ok p =>
      if p.asksForHelp then some (.printed group.usage)
      else dispatch settings disk turns p.rest

end NodeWalk.CommandLine
