import NodeWalk.Fault

set_option autoImplicit false

/-!
# Pointers

A pointer is a text that names a place in a document: empty for the whole, else
a slash before each token. In a token `~1` stands for a slash and `~0` for a
tilde; any other tilde stands for itself.
-/
namespace NodeWalk.Pointer

def pieces {α : Type} [DecidableEq α] (separator : α) : List α → List (List α)
  | [] => [[]]
  | c :: cs =>
    if c = separator then [] :: pieces separator cs
    else match pieces separator cs with
      | [] => [[c]]
      | p :: ps => (c :: p) :: ps

def restoreSlashes : List CodePoint → List CodePoint
  | .char '~' :: .char '1' :: cs => '/' :: restoreSlashes cs
  | c :: cs => c :: restoreSlashes cs
  | [] => []

def restoreTildes : List CodePoint → List CodePoint
  | .char '~' :: .char '0' :: cs => '~' :: restoreTildes cs
  | c :: cs => c :: restoreTildes cs
  | [] => []

/-- Slashes first: a restored tilde never forms a new escape. -/
def decode (piece : List CodePoint) : List CodePoint := restoreTildes (restoreSlashes piece)

def tokens (path : Text) : Except Fault (List Text) :=
  match path.points with
  | [] => .ok []
  | .char '/' :: cs => .ok ((pieces (.char '/') cs).map fun p => ⟨decode p⟩)
  | _ => .error (.path path .notPointer)

def ofValue (h : Objects) : Value → Except Fault Text
  | .text s => .ok s
  | v => .error (.lacks (h.kind v) "startswith")

end NodeWalk.Pointer
