import NodeWalk.Disk
import NodeWalk.Document
import NodeWalk.Json.Writer

set_option autoImplicit false

/-!
# World files

A document that lives in a file. A file that is not there holds an empty object.
Saving writes from front to back, so when it fails the file holds what was
written before the fault.
-/
namespace NodeWalk

def Unfolding.WriteError.fault : Unfolding.WriteError → Fault
  | .circular => .circular
  | .integerTooLong => .integerTooLong

namespace WorldFile

def ofValue (v : Value) (h : Objects) : Store :=
  let (root, h) := Document.adopt v h
  ⟨h, root, #[]⟩

def load (disk : Disk) (path : String) (h : Objects) : Except Fault Store :=
  let path := Path.ofText path
  match disk.look path.text with
  | .error .nameTooLong => .error (.file .nameTooLong path.text)
  | .error _ => .ok (ofValue .null h)
  | .ok _ => do
    let (v, h) := h.load (← disk.readDocument path)
    .ok { ofValue v h with
      log := #[⟨.debug, .worldFile, "Loaded world document from " ++ path.text, false⟩] }

structure Written where
  path : Path
  place : Place
  content : String

/-- What saving leaves behind, and the fault that cut it short. -/
structure Saved where
  disk : Disk
  written : Option Written
  fault : Option Fault

/-- Makes the directories around the file first, where they are missing. -/
def save (disk : Disk) (path : String) (s : Store) : Saved × Store :=
  let path := Path.ofText path
  match disk.makeDirectories path.above with
  | (disk, some f) => (⟨disk, none, some f⟩, s)
  | (disk, none) =>
    let (content, fault) : String × Option Fault :=
      match (s.objects.unfold s.root).write with
      | .ok content => (content, none)
      | .error broken => (broken.written, some broken.error.fault)
    match disk.write path.text content.toUTF8.toList with
    | .error f => (⟨disk, none, some f⟩, s)
    | .ok (place, disk) =>
      let notice : Notice :=
        ⟨.info, .worldFile, "Saved world document to " ++ path.text, false⟩
      (⟨disk, some ⟨path, place, content⟩, fault⟩,
        if fault.isNone then { s with log := s.log.push notice } else s)

end WorldFile
end NodeWalk
