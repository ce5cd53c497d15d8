import NodeWalk.Pointer

set_option autoImplicit false

/-!
# Paths

A path has a tidy form, in which it is shown: no empty and no `.` steps. A `..`
stays, for what it leads to depends on the directories before it.
-/
namespace NodeWalk

/-- A path in its tidy form. The lead is empty for a path that starts at the
working directory, else the slash, or the pair of slashes, at its front. -/
structure Path where
  lead : String
  steps : List String
deriving DecidableEq

namespace Path

def parts (text : String) : List String := (Pointer.pieces '/' text.toList).map String.ofList

/-- A leading pair of slashes is kept, a longer row counts as one slash. -/
def ofText (text : String) : Path :=
  let slashes := (text.toList.takeWhile (· = '/')).length
  ⟨if slashes = 2 then "//" else if slashes = 0 then "" else "/",
    (parts text).filter fun s => s != "" && s != "."⟩

def text (p : Path) : String :=
  let text := p.lead ++ "/".intercalate p.steps
  if text = "" then "." else text

def above (p : Path) : List Path :=
  (List.range p.steps.length).reverse.map fun n => { p with steps := p.steps.take n }

end Path
end NodeWalk
