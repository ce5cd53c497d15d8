import NodeWalk.Log
import NodeWalk.Pointer
import NodeWalk.Value.Copy
import NodeWalk.Value.Unfold

set_option autoImplicit false

/-!
# The document

A document is a value with the objects it lives among. `Document.get` reads the
object at a pointer, the live one; `Document.set` puts a value there, creating
the objects on the way that are missing. What a fault leaves behind is the store
at the moment of the fault.
-/
namespace NodeWalk

/-- The objects, the root of the document, and the log, the latest notice last. -/
structure Store where
  objects : Objects
  root : Value
  log : Array Notice
deriving Inhabited

/-- Actions on a store that may stop with a fault; the store stays as it then is. -/
abbrev StoreM := ExceptT Fault (StateM Store)

namespace StoreM

def report (n : Notice) : StoreM Unit := modify fun s => { s with log := s.log.push n }

def fail {α : Type} (f : Fault) : StoreM α := throw f.settled

def objects : StoreM Objects := do return (← get).objects

def setObjects (h : Objects) : StoreM Unit := modify fun s => { s with objects := h }

def extend {α : Type} (f : Objects → α × Objects) : StoreM α :=
  modifyGet fun ⟨h, root, log⟩ =>
    let (v, h) := f h
    (v, ⟨h, root, log⟩)

def ofExcept {α : Type} : Except Fault α → StoreM α
  | .ok a => pure a
  | .error f => fail f

def shown (v : Value) : StoreM String := do
  match (← objects).shown? v with
  | some s => return s
  | none => fail .integerTooLong

def plain (v : Value) : StoreM Text := do
  match (← objects).plain? v with
  | some s => return s
  | none => fail .integerTooLong

end StoreM

namespace Document

/-- A token that stands for an array index: digits without a leading zero. -/
def isIndex (token : Text) : Bool :=
  let cs := token.points
  !cs.isEmpty && cs.all Text.isDigit && (cs.length = 1 || cs.head? != some (.char '0'))

/-- The index that a token names in an array of `length` items. Where an item may
be appended the length is an index, and so is a dash. -/
def index (path : Text) (length : Nat) (token : Text) (append : Bool) : Except Fault Nat :=
  if append && token = "-" then .ok length
  else if !isIndex token then .error (.path path (.badIndex token))
  else match Numeral.read token with
    | .error .malformed => .error (.notNumeral token)
    | .error (.tooLong digits) => .error (.numeralTooLong digits)
    | .ok n =>
      if n < (if append then length + 1 else length) then .ok n.toNat
      else .error (.path path (.outOfRange n))

def walk (h : Objects) (path : Text) : List Text → Value → Except Fault Value
  | [], v => .ok v
  | token :: tokens, v =>
    match h.find? v with
    | some (.object entries) =>
      match Entries.get? token entries with
      | some w => walk h path tokens w
      | none => .error (.path path .missing)
    | some (.array items) => do
      let i ← index path items.length token false
      walk h path tokens ((items[i]?).getD .null)
    | none => .error (.path path .missing)

def get (h : Objects) (root : Value) (path : Value) : Except Fault Value := do
  let path ← Pointer.ofValue h path
  walk h path (← Pointer.tokens path) root

/-- One step on the way to a place that is written; a missing object is created. -/
def descend (path : Text) (v : Value) (token : Text) : StoreM Value := do
  let h ← StoreM.objects
  match v, h.find? v with
  | .ref a, some (.object entries) =>
    match Entries.get? token entries with
    | some w => return w
    | none =>
      let (w, h) := h.newObject []
      StoreM.setObjects (h.put a (.object (Entries.set token w entries)))
      return w
  | _, some (.array items) =>
    let i ← StoreM.ofExcept (index path items.length token false)
    return (items[i]?).getD .null
  | _, _ => StoreM.fail (.path path .throughScalar)

def assign (path : Text) (v : Value) (token : Text) (w : Value) : StoreM Unit := do
  let h ← StoreM.objects
  match v, h.find? v with
  | .ref a, some (.object entries) =>
    StoreM.setObjects (h.put a (.object (Entries.set token w entries)))
  | .ref a, some (.array items) =>
    let i ← StoreM.ofExcept (index path items.length token true)
    StoreM.setObjects (h.put a (.array (if i = items.length then items ++ [w] else items.set i w)))
  | _, _ => StoreM.fail (.path path .throughScalar)

def place (path : Text) (w : Value) : List Text → Value → StoreM Unit
  | [], _ => pure ()
  | [token], v => assign path v token w
  | token :: tokens, v => do place path w tokens (← descend path v token)

/-- Writes a value at a pointer. The whole document is replaced without a notice;
any other write is reported once it is done. -/
def set (path w : Value) : StoreM Unit := do
  let path ← StoreM.ofExcept (Pointer.ofValue (← StoreM.objects) path)
  match ← StoreM.ofExcept (Pointer.tokens path) with
  | [] => modify fun s => { s with root := w }
  | tokens =>
    place path w tokens (← MonadState.get).root
    StoreM.report ⟨.debug, .document, "Set " ++ path ++ " = " ++ (← StoreM.shown w), false⟩

/-- A document of its own: a copy of the value, or an empty object for null. -/
def adopt (v : Value) (h : Objects) : Value × Objects :=
  match v with
  | .null => h.newObject []
  | v => h.copy v

def copyOut : StoreM Value := do
  StoreM.extend (Objects.copy (← MonadState.get).root)

end Document
end NodeWalk
