import NodeWalk.Value.Objects

set_option autoImplicit false

/-!
# Violations of a document's form

A record that lacks the expected form is refused with all its violations, in the
order of the fields. A violation is a rule and the place where it was broken.
-/
namespace NodeWalk

inductive Form where
  | node
  | graph
  | request
deriving DecidableEq

inductive Rule where
  | missing
  | text
  | nonemptyText
  /-- A text with half of a surrogate pair, where only characters may stand. -/
  | unicodeText
  | object
  | array
  /-- The value must be a record of this form. -/
  | record (form : Form)
  | integer
  | integerText
  | wholeNumber
  | finiteNumber
  | integerSize
  | nonnegative
  | wellFormedBody
deriving DecidableEq

namespace Rule

def code : Rule → String
  | .missing => "missing"
  | .text => "string_type"
  | .nonemptyText => "string_too_short"
  | .unicodeText => "string_unicode"
  | .object => "dict_type"
  | .array => "list_type"
  | .record .request => "model_attributes_type"
  | .record _ => "model_type"
  | .integer => "int_type"
  | .integerText => "int_parsing"
  | .wholeNumber => "int_from_float"
  | .finiteNumber => "finite_number"
  | .integerSize => "int_parsing_size"
  | .nonnegative => "greater_than_equal"
  | .wellFormedBody => "json_invalid"

def message : Rule → String
  | .missing => "Field required"
  | .text => "Input should be a valid string"
  | .nonemptyText => "String should have at least 1 character"
  | .unicodeText =>
    "Input should be a valid string, unable to parse raw data as a unicode string"
  | .object => "Input should be a valid dictionary"
  | .array => "Input should be a valid list"
  | .record .node => "Input should be a valid dictionary or instance of NodeDocument"
  | .record .graph => "Input should be a valid dictionary or instance of GraphDocument"
  | .record .request => "Input should be a valid dictionary or object to extract fields from"
  | .integer => "Input should be a valid integer"
  | .integerText => "Input should be a valid integer, unable to parse string as an integer"
  | .wholeNumber => "Input should be a valid integer, got a number with a fractional part"
  | .finiteNumber => "Input should be a finite number"
  | .integerSize => "Unable to parse input string as an integer, exceeded maximum size"
  | .nonnegative => "Input should be greater than or equal to 0"
  | .wellFormedBody => "JSON decode error"

end Rule

inductive Step where
  | key (k : Text)
  | index (i : Nat)
deriving DecidableEq

structure Violation where
  rule : Rule
  place : List Step
deriving DecidableEq

end NodeWalk
