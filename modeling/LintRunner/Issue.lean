/-!
# Issues of a document

What is wrong with a document that was checked against a schema: one issue per fault, with the way
from the root of the document to the faulty place.
-/

set_option autoImplicit false

namespace LintRunner

/-- One step into a document: a key of a table or a place of a list. -/
inductive Step where
  | key (name : String)
  | item (index : Nat)
  deriving DecidableEq, Repr

inductive IssueKind where
  | missing
  | extraForbidden
  | stringType
  | listType
  | dictType
  | modelType
  | enum
  | literalError
  | intType
  | intParsing
  | intParsingSize
  | intFromFloat
  | greaterThanEqual
  | frozenInstance
  | noSuchAttribute
  deriving DecidableEq, Repr

def IssueKind.name : IssueKind → String
  | .missing => "missing"
  | .extraForbidden => "extra_forbidden"
  | .stringType => "string_type"
  | .listType => "list_type"
  | .dictType => "dict_type"
  | .modelType => "model_type"
  | .enum => "enum"
  | .literalError => "literal_error"
  | .intType => "int_type"
  | .intParsing => "int_parsing"
  | .intParsingSize => "int_parsing_size"
  | .intFromFloat => "int_from_float"
  | .greaterThanEqual => "greater_than_equal"
  | .frozenInstance => "frozen_instance"
  | .noSuchAttribute => "no_such_attribute"

structure Issue where
  kind : IssueKind
  path : List Step
  deriving DecidableEq, Repr

/-- The same issue seen from one step further out. -/
def Issue.under (step : Step) (issue : Issue) : Issue := { issue with path := step :: issue.path }

end LintRunner
