/-!
# `Entitlement.Settings.Issue` — what is wrong with one setting

A rejected value is reported by the name under which it was given and by its cause.  Each cause has
a short code and a wording.
-/
namespace Entitlement.Settings

/-- Why a value is not accepted. -/
inductive IssueKind where
  | boolUnreadable
  | boolExpected
  | intUnreadable
  | intTooLong
  | intFractional
  | intExpected
  | intNotFinite
  | textExpected
  | textNotUnicode
  | stageUnknown
  | unknownName
deriving DecidableEq, Repr

def IssueKind.code : IssueKind → String
  | .boolUnreadable => "bool_parsing"
  | .boolExpected => "bool_type"
  | .intUnreadable => "int_parsing"
  | .intTooLong => "int_parsing_size"
  | .intFractional => "int_from_float"
  | .intExpected => "int_type"
  | .intNotFinite => "finite_number"
  | .textExpected => "string_type"
  | .textNotUnicode => "string_unicode"
  | .stageUnknown => "literal_error"
  | .unknownName => "extra_forbidden"

def IssueKind.message : IssueKind → String
  | .boolUnreadable => "Input should be a valid boolean, unable to interpret input"
  | .boolExpected => "Input should be a valid boolean"
  | .intUnreadable => "Input should be a valid integer, unable to parse string as an integer"
  | .intTooLong => "Unable to parse input string as an integer, exceeded maximum size"
  | .intFractional => "Input should be a valid integer, got a number with a fractional part"
  | .intExpected => "Input should be a valid integer"
  | .intNotFinite => "Input should be a finite number"
  | .textExpected => "Input should be a valid string"
  | .textNotUnicode =>
    "Input should be a valid string, unable to parse raw data as a unicode string"
  | .stageUnknown => "Input should be 'dev', 'test' or 'prod'"
  | .unknownName => "Extra inputs are not permitted"

/-- A rejected value. -/
structure Issue where
  name : String
  kind : IssueKind
deriving DecidableEq, Repr

/-- The wording of a rejected value: the name it was given under, and the cause. -/
def Issue.message (issue : Issue) : String := issue.name ++ ": " ++ issue.kind.message

end Entitlement.Settings
