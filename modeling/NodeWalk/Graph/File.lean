import NodeWalk.Disk
import NodeWalk.Graph.Parse

set_option autoImplicit false

/-!
# Graph files

A file that holds a graph document. A malformed document is a fault of the graph
and names the file; what keeps the file from being read at all is not.
-/
namespace NodeWalk.Graph

def load (disk : Disk) (path : String) (h : Objects) : Except Fault Graph × Objects :=
  let path := Path.ofText path
  match disk.readDocument path with
  | .error (.notJson what place) =>
    (.error (.graph (.notJson path.text what place)), h)
  | .error f => (.error f, h)
  | .ok j =>
    let (v, h) := h.load j
    (parse h v, h)

end NodeWalk.Graph
