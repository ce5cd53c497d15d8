import NodeWalk.Document
import NodeWalk.Graph.Node
import NodeWalk.Run.Record

set_option autoImplicit false

/-!
# Resolving parameters

A reference is replaced by the very value that was recorded, a literal by a copy
of its own, so nothing done to a resolved value reaches the graph. The first
reference without a record stops the resolving.
-/
namespace NodeWalk

namespace Parameter

def resolve (r : Record) (name : Text) : Parameter → StoreM Value
  | .reference node socket => do
    let key ← StoreM.ofExcept (Key.ofValues (← StoreM.objects) (.text nodeEntity) node socket)
    match Record.find? key r.entries with
    | some v => return v
    | none => StoreM.fail (.unresolved key.index key.socket (some name))
  | .literal v => StoreM.extend (Objects.copy v)

end Parameter

/-- A parameter that was never tagged holds no value to pass on. -/
def Draft.resolve (r : Record) (name : Text) : Draft → StoreM Value
  | .tagged p => p.resolve r name
  | .untagged v => do StoreM.fail (.lacks ((← StoreM.objects).kind v) "value")

def resolveEach {α : Type} (resolve : Text → α → StoreM Value) :
    List (Text × α) → StoreM (Entries Value)
  | [] => return []
  | (name, p) :: ps => do
    let v ← resolve name p
    let vs ← resolveEach resolve ps
    return (name, v) :: vs

end NodeWalk
