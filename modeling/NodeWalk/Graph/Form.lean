import NodeWalk.Graph.IntegerField

set_option autoImplicit false

/-!
# The form of documents

Checks of records as a whole. Fields are checked in their order and every
violation is reported; fields without a rule are ignored. Nothing is said here
about parameters beyond that there is an object of them.
-/
namespace NodeWalk

abbrev Checked (α : Type) := Except (List Violation) α

namespace Checked

variable {α β : Type}

def both : Checked α → Checked β → Checked (α × β)
  | .ok a, .ok b => .ok (a, b)
  | .ok _, .error vs => .error vs
  | .error us, .ok _ => .error us
  | .error us, .error vs => .error (us ++ vs)

def within (steps : List Step) : Checked α → Checked α :=
  Except.mapError fun vs => vs.map fun v => { v with place := steps ++ v.place }

def violated (rule : Rule) : Checked α := .error [⟨rule, []⟩]

end Checked

namespace Form

def field {α : Type} (fields : Entries Value) (key : Text)
    (check : Option Value → Checked α) : Checked α :=
  (check (Entries.get? key fields)).within [.key key]

def text : Option Value → Checked Text
  | none => .violated .missing
  | some (.text s) => .ok s
  | some _ => .violated .text

/-- The length of a text is taken of its characters, so there may be nothing else in it. -/
def nonemptyText (v : Option Value) : Checked Text := do
  let s ← text v
  if !s.isWhole then .violated .unicodeText
  else if s = "" then .violated .nonemptyText
  else .ok s

def optionalText : Option Value → Checked (Option Text)
  | none | some .null => .ok none
  | some (.text s) => .ok (some s)
  | some _ => .violated .text

def objectOf (h : Objects) (v : Value) : Checked (Entries Value) :=
  match h.entries? v with
  | some es => .ok es
  | none => .violated .object

/-- An object that need not be given; null counts as not given. -/
def optionalObject (h : Objects) : Option Value → Checked (Option Value)
  | none | some .null => .ok none
  | some v => (objectOf h v).map fun _ => some v

def integer (v : Value) : Checked Int :=
  match IntegerField.ofValue v with
  | .ok n => .ok n
  | .error rule => .violated rule

def integerOr (default : Int) : Option Value → Checked Int
  | none => .ok default
  | some v => integer v

def optionalCeiling : Option Value → Checked (Option Int)
  | none | some .null => .ok none
  | some v => do
    let n ← integer v
    if n < 0 then .violated .nonnegative else .ok (some n)

structure NodeParts where
  type : Text
  parameters : Option Value
  flow : Option Value

/-- Checks one node; `form` says which record it had to be. -/
def checkNode (h : Objects) (form : Form) (v : Value) : Checked NodeParts :=
  match h.entries? v with
  | none => .violated (.record form)
  | some fields =>
    (((field fields "type" nonemptyText).both
        (field fields "parameters" (optionalObject h))).both
      (field fields "flow" (optionalObject h))).map fun p => ⟨p.1.1, p.1.2, p.2⟩

def checkNodesFrom (h : Objects) (form : Form) : Nat → List Value → Checked (List NodeParts)
  | _, [] => .ok []
  | i, v :: vs =>
    ((Checked.within [.index i] (checkNode h form v)).both (checkNodesFrom h form (i + 1) vs)).map
      fun p => p.1 :: p.2

def checkNodes (h : Objects) (form : Form) : Option Value → Checked (List NodeParts)
  | none => .violated .missing
  | some v =>
    match h.items? v with
    | some items => checkNodesFrom h form 0 items
    | none => .violated .array

structure GraphParts where
  entry : Int
  nodes : List NodeParts
  name : Option Text

/-- Checks a graph document; a bare array is its nodes. -/
def checkGraph (h : Objects) (v : Value) : Checked GraphParts :=
  match h.find? v with
  | some (.object fields) => ofFields fields
  | some (.array _) => ofFields [("nodes", v)]
  | none => .violated (.record .graph)
where
  ofFields (fields : Entries Value) : Checked GraphParts :=
    (((field fields "entry" (integerOr 0)).both
        (field fields "nodes" (checkNodes h .node))).both
      (field fields "name" optionalText)).map fun p => ⟨p.1.1, p.1.2, p.2⟩

end Form
end NodeWalk
