import NodeWalk.CommandLine.Commands

set_option autoImplicit false

/-!
# The program

Carries out one call of the command line: looks up the files and the variables
that the call may need, and puts out what `CommandLine.execute` says.
-/
namespace NodeWalk.Program

def isDirectoryCode : UInt32 := 21

def readItem (place : Place) : IO (Option Item) := do
  try
    return some (.file (← IO.FS.readBinFile ("/" ++ "/".intercalate place)).toList)
  catch
    | .inappropriateType _ code _ =>
      return if code = isDirectoryCode then some .directory else none
    | _ => return none

def places (current : Place) (path : String) : List Place :=
  let start := if path.startsWith "/" then [] else current
  let next (place : Place) (step : String) : Place :=
    if step = "" || step = "." then place
    else if step = ".." then place.dropLast
    else place ++ [step]
  let steps := path.splitOn "/"
  (List.range (steps.length + 1)).map fun n => (steps.take n).foldl next start

/-- Looks up every place that the arguments may lead to. -/
def readDisk (paths : List String) : IO Disk := do
  let current := ((← IO.currentDir).toString.splitOn "/").filter (· != "")
  let found ← (paths.flatMap (places current)).mapM fun place => do
    return (place, ← readItem place)
  return { Disk.bare current with
    item? := fun place =>
      match found.lookup place with
      | some item => item
      | none => (Disk.bare current).item? place }

def readSettings : IO (Except Fault Settings) := do
  let names := ["BEHAVIOR_CORE_DEBUG", "BEHAVIOR_CORE_MAX_STEPS", "BEHAVIOR_CORE_HOST",
    "BEHAVIOR_CORE_PORT", "BEHAVIOR_CORE_WORLD_PATH"]
  let found ← names.mapM fun name => do return (name, ← IO.getEnv name)
  return Settings.ofEnvironment fun name => (found.lookup name).join

def writeFile (f : WorldFile.Written) : IO Unit := do
  for p in f.path.above.head? do IO.FS.createDirAll p.text
  IO.FS.writeFile f.path.text f.content

def padded (n : Nat) : String :=
  let digits := toString n
  String.ofList (List.replicate (3 - digits.length) '0') ++ digits

def seconds (milliseconds : Nat) : String :=
  toString (milliseconds / 1000) ++ "." ++ padded (milliseconds % 1000) ++ "s"

def turns : Nat := Nat.pow 10 18

def carryOut (settings : Settings) (args : List String) : IO UInt32 := do
  let values := args.flatMap fun arg => arg :: (CommandLine.splitOption arg).2.toList
  let disk ← readDisk (values ++ settings.worldPath.toList)
  let start ← IO.monoMsNow
  match CommandLine.execute settings disk turns args with
  | none => return 1
  | some o =>
    let elapsed := seconds ((← IO.monoMsNow) - start)
    for f in o.written do writeFile f
    for n in o.log do IO.eprintln (n.line elapsed).visible
    IO.print o.out
    IO.eprint o.err
    if let some f := o.escaped then IO.eprintln f.message.visible
    return UInt32.ofNat o.exitCode

end NodeWalk.Program

def main (args : List String) : IO UInt32 := do
  match ← NodeWalk.Program.readSettings with
  | .ok settings => NodeWalk.Program.carryOut settings args
  | .error f =>
    IO.eprintln f.message.visible
    return 1
