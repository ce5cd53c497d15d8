import NodeWalk.Disk.Path
import NodeWalk.Fault

set_option autoImplicit false

/-!
# Files

A tree of directories and files, with a working directory. A path is followed
step by step, every step taken in a directory; `Disk.look` says what it leads to
and `Disk.write` what writing there makes of the tree. What stands in a file is
read as text or as a document.
-/
namespace NodeWalk

inductive Item where
  | directory
  | file (bytes : List UInt8)
deriving DecidableEq

abbrev Place := List String

structure Disk where
  current : Place
  item? : Place → Option Item

namespace Disk

def maxName : Nat := 255

def maxPath : Nat := 4095

def bare (current : Place) : Disk :=
  ⟨current, fun p => if p.isPrefixOf current then some .directory else none⟩

def put (d : Disk) (place : Place) (item : Item) : Disk :=
  { d with item? := fun p => if p = place then some item else d.item? p }

def putDeep (d : Disk) (place : Place) (item : Item) : Disk :=
  { d with item? := fun p =>
      if p = place then some item
      else if p.isPrefixOf place then some .directory
      else d.item? p }

def enter (d : Disk) (place : Place) (step : String) : Except FileProblem Place :=
  match d.item? place with
  | none => .error .absent
  | some (.file _) => .error .throughFile
  | some .directory =>
    if step = "" || step = "." then .ok place
    else if step = ".." then .ok place.dropLast
    else if maxName < step.utf8ByteSize then .error .nameTooLong
    else .ok (place ++ [step])

def follow (d : Disk) (path : String) : Except FileProblem Place :=
  if path.toList.contains '\x00' then .error .nulCharacter
  else if path = "" then .error .absent
  else if maxPath < path.utf8ByteSize then .error .nameTooLong
  else (Path.parts path).foldlM d.enter
    (if path.toList.head? = some '/' then [] else d.current)

def look (d : Disk) (path : String) : Except FileProblem Item := do
  match d.item? (← d.follow path) with
  | some item => .ok item
  | none => .error .absent

def isDirectory (d : Disk) (path : String) : Bool :=
  match d.look path with
  | .ok .directory => true
  | _ => false

def makeDirectory (d : Disk) (path : String) : Except FileProblem Disk := do
  let place ← d.follow path
  match d.item? place with
  | some _ => .error .present
  | none => .ok (d.put place .directory)

/-- What keeps a directory from being there after an attempt to make it. -/
def stop? (d : Disk) (problem : FileProblem) (path : String) : Option Fault :=
  if d.isDirectory path then none else some (.file problem path)

/-- Makes the first of the paths a directory, where it is none; each of them is
around the one before, and is made first where it is missing. -/
def makeDirectories (d : Disk) : List Path → Disk × Option Fault
  | [] => (d, none)
  | p :: around =>
    match d.makeDirectory p.text with
    | .ok d => (d, none)
    | .error .absent =>
      match d.makeDirectories around with
      | (d, some f) => (d, some f)
      | (d, none) =>
        match d.makeDirectory p.text with
        | .ok d => (d, none)
        | .error problem => (d, d.stop? problem p.text)
    | .error problem => (d, d.stop? problem p.text)

/-- Writes a file, new or in place of an old one, in a directory that is there. -/
def write (d : Disk) (path : String) (bytes : List UInt8) : Except Fault (Place × Disk) :=
  match d.follow path with
  | .error problem => .error (.file problem path)
  | .ok place =>
    match d.item? place with
    | some .directory => .error (.file .isDirectory path)
    | _ => .ok (place, d.put place (.file bytes))

def readText (d : Disk) (path : Path) : Except Fault (List CodePoint) :=
  match d.look path.text with
  | .error problem => .error (.file problem path.text)
  | .ok .directory => .error (.file .isDirectory path.text)
  | .ok (.file bytes) =>
    match Text.decodeUtf8 bytes with
    | .ok cs => .ok (Text.unifyLines cs)
    | .error f => .error (.notUtf8 f)

def readDocument (d : Disk) (path : Path) : Except Fault Json := do
  match Json.read (← d.readText path) with
  | .ok j => .ok j
  | .error (.malformed what place) => .error (.notJson what place)
  | .error (.integerTooLong digits) => .error (.numeralTooLong digits)

theorem item?_put_self (d : Disk) (place : Place) (item : Item) :
    (d.put place item).item? place = some item := by simp [put]

theorem item?_put_of_ne (d : Disk) {place other : Place} (h : other ≠ place) (item : Item) :
    (d.put place item).item? other = d.item? other := by simp [put, h]

end Disk
end NodeWalk
