import NodeWalk.Disk
import NodeWalk.Settings
import NodeWalk.Text.Likeness

set_option autoImplicit false

/-!
# Arguments

Options may stand anywhere before `--` and take their value behind an equals
sign or from the next argument, whatever it looks like. The last value of an
option counts. Values are checked in the order in which the options first came,
then the argument, and leftover arguments come last. A refused name is answered
with the known names that are most like it.
-/
namespace NodeWalk.CommandLine

structure Flag where
  name : String
  takesValue : Bool
deriving DecidableEq

structure Command where
  call : String
  synopsis : String
  flags : List Flag
  argument : Option String
deriving DecidableEq

inductive Problem where
  | notInteger (text : String)
  | notIntegerRange (text : String)
  | belowZero (n : Int)
  | noFile (path : String)
  | isDirectory (path : String)
deriving DecidableEq

inductive Refusal where
  | noSuchOption (name : String) (suggestions : List String)
  | noSuchCommand (name : String) (suggestions : List String)
  | missingCommand
  | requiresArgument (name : String)
  | takesNoValue (name : String)
  | missingArgument (name : String)
  | invalid (name : String) (problem : Problem)
  /-- A path that cannot even be looked up; no report is made of it. -/
  | nulCharacter (path : String)
  | extraArguments (args : List String)
  | saveWithoutWorld
deriving DecidableEq

def Problem.message : Problem → String
  | .notInteger text => Text.quoted text ++ " is not a valid integer."
  | .notIntegerRange text => Text.quoted text ++ " is not a valid integer range."
  | .belowZero n => toString n ++ " is not in the range x>=0."
  | .noFile path => "File " ++ Text.quoted path ++ " does not exist."
  | .isDirectory path => "File " ++ Text.quoted path ++ " is a directory."

def suggested : List String → String
  | [] => ""
  | [name] => " Did you mean " ++ Text.quoted name ++ "?"
  | names =>
    " (Did you mean one of: " ++
      ", ".intercalate (names.map fun name : String => Text.quoted name) ++ "?)"

namespace Refusal

def message : Refusal → String
  | .noSuchOption name names => "No such option " ++ Text.quoted name ++ "." ++ suggested names
  | .noSuchCommand name names => "No such command " ++ Text.quoted name ++ "." ++ suggested names
  | .missingCommand => "Missing command."
  | .requiresArgument name => "Option " ++ Text.quoted name ++ " requires an argument."
  | .takesNoValue name => "Option " ++ Text.quoted name ++ " does not take a value."
  | .missingArgument name => "Missing argument " ++ Text.quoted name ++ "."
  | .invalid name problem => "Invalid value for " ++ Text.quoted name ++ ": " ++ problem.message
  | .nulCharacter path => FileProblem.nulCharacter.message path
  | .extraArguments args =>
    "Got unexpected extra argument" ++ (if args.length = 1 then "" else "s") ++ " ("
      ++ " ".intercalate args ++ ")"
  | .saveWithoutWorld => "--save requires --world (or BEHAVIOR_CORE_WORLD_PATH)"

/-- A malformed option is reported without the usage of its command. -/
def showsUsage : Refusal → Bool
  | .requiresArgument _ | .takesNoValue _ => false
  | _ => true

def report (c : Command) (r : Refusal) : String :=
  (if r.showsUsage then
    "Usage: " ++ c.call ++ " " ++ c.synopsis ++ "\nTry '" ++ c.call
      ++ " --help' for help.\n\n"
   else "") ++ "Error: " ++ r.message ++ "\n"

end Refusal

structure Parsed where
  options : List (String × Option String)
  rest : List String
deriving DecidableEq

def splitOption (arg : String) : String × Option String :=
  let cs := arg.toList
  match cs.dropWhile (· != '=') with
  | '=' :: value => (String.ofList (cs.takeWhile (· != '=')), some (String.ofList value))
  | _ => (arg, none)

/-- A single dash is an argument; anything longer that starts with one is an option. -/
def isOption (arg : String) : Bool :=
  match arg.toList with
  | '-' :: _ :: _ => true
  | _ => false

/-- An unknown option is named in full behind two dashes, else by its first letter
and without suggestions. -/
def unknownOption (flags : List Flag) (arg : String) : Refusal :=
  match arg.toList with
  | '-' :: '-' :: _ =>
    let name := (splitOption arg).1
    .noSuchOption name (Text.closest name (flags.map (·.name)))
  | cs => .noSuchOption (String.ofList (cs.take 2)) []

def parse (flags : List Flag) : List String → Except Refusal Parsed
  | [] => .ok ⟨[], []⟩
  | arg :: args =>
    if arg = "--" then .ok ⟨[], args⟩
    else if !isOption arg then do
      let p ← parse flags args
      .ok ⟨p.options, arg :: p.rest⟩
    else
      let (name, value) := splitOption arg
      match flags.find? (·.name = name) with
      | none => .error (unknownOption flags arg)
      | some flag =>
        if flag.takesValue then
          match value, args with
          | some value, args => do
            let p ← parse flags args
            .ok ⟨(name, some value) :: p.options, p.rest⟩
          | none, value :: args => do
            let p ← parse flags args
            .ok ⟨(name, some value) :: p.options, p.rest⟩
          | none, [] => .error (.requiresArgument name)
        else if value.isSome then .error (.takesNoValue name)
        else do
          let p ← parse flags args
          .ok ⟨(name, none) :: p.options, p.rest⟩

/-- Takes the options at the front alone, and the rest as it stands; `--` ends the
options and is dropped. -/
def parseFront (flags : List Flag) (args : List String) : Except Refusal Parsed := do
  let front := args.takeWhile fun arg => isOption arg && arg != "--"
  let rest := args.drop front.length
  let p ← parse flags front
  .ok ⟨p.options, if rest.head? = some "--" then rest.tail else rest⟩

namespace Parsed

/-- Each option once, at its first place, with its last value. -/
def settled (p : Parsed) : List (String × Option String) :=
  (p.options.map (·.1)).eraseDups.filterMap fun name =>
    (p.options.reverse.lookup name).map fun value => (name, value)

def asksForHelp (p : Parsed) : Bool := p.options.any (·.1 = "--help")

end Parsed

def integer (name text : String) : Except Refusal Int :=
  match Numeral.read text with
  | .ok n => .ok n
  | .error _ => .error (.invalid name (.notInteger text))

def nonnegative (name text : String) : Except Refusal Int :=
  match Numeral.read text with
  | .ok n => if n < 0 then .error (.invalid name (.belowZero n)) else .ok n
  | .error _ => .error (.invalid name (.notIntegerRange text))

def existingFile (disk : Disk) (name path : String) : Except Refusal String :=
  match disk.look path with
  | .ok (.file _) => .ok path
  | .ok .directory => .error (.invalid name (.isDirectory path))
  | .error .nulCharacter => .error (.nulCharacter path)
  | .error _ => .error (.invalid name (.noFile path))

def possibleFile (disk : Disk) (name path : String) : Except Refusal String :=
  match disk.look path with
  | .ok .directory => .error (.invalid name (.isDirectory path))
  | .error .nulCharacter => .error (.nulCharacter path)
  | _ => .ok path

def noMore (args : List String) : Except Refusal Unit :=
  if args.isEmpty then .ok () else .error (.extraArguments args)

end NodeWalk.CommandLine
