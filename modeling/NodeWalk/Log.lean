import NodeWalk.Text

set_option autoImplicit false

/-!
# The log

What happens is reported in notices: a level, the channel that reports, and a
text. The notice of a finished run also tells the time it took, which only the
reader of a clock knows; `Notice.line` is given it.
-/
namespace NodeWalk

inductive Level where
  | debug
  | info
  | warning
  | error
deriving DecidableEq

namespace Level

def name : Level → String
  | .debug => "DEBUG"
  | .info => "INFO"
  | .warning => "WARNING"
  | .error => "ERROR"

def severity : Level → Nat
  | .debug => 10
  | .info => 20
  | .warning => 30
  | .error => 40

end Level

inductive Channel where
  | interpreter
  | document
  | worldFile
  | settings
  | service
deriving DecidableEq

def Channel.name : Channel → String
  | .interpreter => "behavior_core.interpreter"
  | .document => "behavior_core.document"
  | .worldFile => "behavior_core.local_json"
  | .settings => "behavior_core.config"
  | .service => "behavior_core.routes"

structure Notice where
  level : Level
  channel : Channel
  text : Text
  /-- The text ends with the time taken. -/
  timed : Bool := false
deriving DecidableEq

namespace Notice

def message (n : Notice) (elapsed : String) : Text :=
  if n.timed then n.text ++ " in " ++ elapsed else n.text

def line (n : Notice) (elapsed : String) : Text :=
  "[" ++ n.level.name ++ "] " ++ n.channel.name ++ ": " ++ n.message elapsed

end Notice
end NodeWalk
