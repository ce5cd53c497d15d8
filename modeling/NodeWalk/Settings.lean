import NodeWalk.Fault
import NodeWalk.Log

set_option autoImplicit false

/-!
# Settings

The settings of the program, read from the environment. An unset variable leaves
the default; a numeral that cannot be read is a fault. Settings that cannot work
are told apart from sound ones by the notices of `complaints`.
-/
namespace NodeWalk

structure Settings where
  debug : Bool
  /-- The ceiling of a run, 0 for none. -/
  maxSteps : Int
  host : String
  port : Int
  worldPath : Option String
deriving DecidableEq

namespace Settings

def defaults : Settings := ⟨false, 0, "0.0.0.0", 7780, none⟩

abbrev Environment := String → Option String

def isYes (s : String) : Bool :=
  let s := s.map Char.toLower
  s = "true" || s = "1" || s = "yes"

def integer (s : String) : Except Fault Int :=
  match Numeral.read s with
  | .ok n => .ok n
  | .error .malformed => .error (.notNumeral s)
  | .error (.tooLong digits) => .error (.numeralTooLong digits)

def integerOr (default : Int) : Option String → Except Fault Int
  | none => .ok default
  | some s => integer s

def ofEnvironment (env : Environment) : Except Fault Settings := do
  let maxSteps ← integerOr defaults.maxSteps (env "BEHAVIOR_CORE_MAX_STEPS")
  let port ← integerOr defaults.port (env "BEHAVIOR_CORE_PORT")
  .ok {
    debug := isYes ((env "BEHAVIOR_CORE_DEBUG").getD "")
    maxSteps
    host := (env "BEHAVIOR_CORE_HOST").getD defaults.host
    port
    worldPath := env "BEHAVIOR_CORE_WORLD_PATH" }

def ceiling? (s : Settings) : Option Int := if s.maxSteps > 0 then some s.maxSteps else none

/-- What is reported about settings that cannot work; only the first fault is. -/
def complaints (s : Settings) : List Notice :=
  if s.maxSteps < 0 then
    [⟨.error, .settings, "BEHAVIOR_CORE_MAX_STEPS must be 0 (unbounded) or a positive integer",
      false⟩]
  else if 0 < s.port ∧ s.port < 65536 then []
  else [⟨.error, .settings, "BEHAVIOR_CORE_PORT out of range: " ++ toString s.port, false⟩]

def valid (s : Settings) : Bool := s.complaints.isEmpty

def worldPath? (s : Settings) : Option String := s.worldPath.filter (· != "")

end Settings
end NodeWalk
