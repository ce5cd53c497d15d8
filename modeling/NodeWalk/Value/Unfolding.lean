import NodeWalk.Entries
import NodeWalk.Value.Scalar

set_option autoImplicit false

/-!
# Unfolded values

What a value looks like when it is written out: a tree in which a container met
again inside itself is a way back to the enclosing one. `shown?` is the text of
the tree, `plain?` the text where a text stands for itself.
-/
namespace NodeWalk

inductive Container where
  | array
  | object
deriving DecidableEq

inductive Unfolding where
  | scalar (s : Scalar)
  | array (items : List Unfolding)
  | object (entries : List (Text × Unfolding))
  /-- The container of kind `which` that is `up` levels further out, the directly
  enclosing one being 1. -/
  | back (which : Container) (up : Nat)

namespace Unfolding

instance : Inhabited Unfolding := ⟨.scalar .null⟩

def kind : Unfolding → Kind
  | .scalar s => s.kind
  | .array _ | .back .array _ => .array
  | .object _ | .back .object _ => .object

mutual

def shown? : Unfolding → Option String
  | .scalar s => s.shown?
  | .array items => do some ("[" ++ ", ".intercalate (← shownItems? items) ++ "]")
  | .object entries => do some ("\x7b" ++ ", ".intercalate (← shownEntries? entries) ++ "\x7d")
  | .back .array _ => some "[...]"
  | .back .object _ => some "\x7b...\x7d"

def shownItems? : List Unfolding → Option (List String)
  | [] => some []
  | t :: ts => do some ((← shown? t) :: (← shownItems? ts))

def shownEntries? : List (Text × Unfolding) → Option (List String)
  | [] => some []
  | (k, t) :: es => do some ((Text.quoted k ++ ": " ++ (← shown? t)) :: (← shownEntries? es))

end

def plain? : Unfolding → Option Text
  | .scalar s => s.plain?
  | t => t.shown?.map .ofString

inductive EveryText (P : Text → Prop) : Unfolding → Prop where
  | scalar {a : Scalar} (h : ∀ s, a = .text s → P s) : EveryText P (.scalar a)
  | back (which : Container) (up : Nat) : EveryText P (.back which up)
  | array {items : List Unfolding} (h : ∀ t ∈ items, EveryText P t) : EveryText P (.array items)
  | object {entries : List (Text × Unfolding)} (hkeys : ∀ k ∈ Entries.keys entries, P k)
    (h : ∀ e ∈ entries, EveryText P e.2) : EveryText P (.object entries)

end Unfolding
end NodeWalk
