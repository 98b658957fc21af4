import Entitlement.Text.Case
import Entitlement.Text.Quoted

/-!
# `Entitlement.Log.Severity` — severities, their numbers and the names of thresholds

Five severities are numbered in steps of ten.  A threshold is given by a name in any case: a
severity, one of two other names for severities, or the name for no threshold at all.  A name that
is none of these means the threshold of information.  Two names are special: they name something
that is a text or a table and not a number, and a threshold can be neither.
-/
namespace Entitlement.Log

/-- How severe a logged event is. -/
inductive Severity where
  | debug
  | info
  | warning
  | error
  | critical
deriving DecidableEq, Repr

def Severity.number : Severity → Nat
  | .debug => 10
  | .info => 20
  | .warning => 30
  | .error => 40
  | .critical => 50

def Severity.name : Severity → String
  | .debug => "debug"
  | .info => "info"
  | .warning => "warning"
  | .error => "error"
  | .critical => "critical"

/-- The calls with which an event is logged; two of them are second names for severities. -/
inductive Method where
  | debug
  | info
  | warning
  | warn
  | error
  | critical
  | fatal
deriving DecidableEq, Repr

/-- The severity a call reports. -/
def Method.severity : Method → Severity
  | .debug => .debug
  | .info => .info
  | .warning | .warn => .warning
  | .error => .error
  | .critical | .fatal => .critical

def Method.name : Method → String
  | .debug => "debug"
  | .info => "info"
  | .warning | .warn => "warning"
  | .error => "error"
  | .critical => "critical"
  | .fatal => "fatal"

def Method.named? : String → Option Method
  | "debug" => some .debug
  | "info" => some .info
  | "warning" => some .warning
  | "warn" => some .warn
  | "error" => some .error
  | "critical" => some .critical
  | "fatal" => some .fatal
  | _ => none

/-- What a name stands for where a threshold is wanted. -/
inductive Threshold where
  | number (n : Nat)
  | text (s : String)
  /-- The table of styles. -/
  | table
deriving DecidableEq, Repr

/-- The styles in which a plain line can be set: a mark, the class that sets it, and its layout. -/
def styles : List (String × String × String) :=
  [("%", "PercentStyle", "%(levelname)s:%(name)s:%(message)s"),
    ("\x7b", "StrFormatStyle", "\x7blevelname\x7d:\x7bname\x7d:\x7bmessage\x7d"),
    ("$", "StringTemplateStyle", "$\x7blevelname\x7d:$\x7bname\x7d:$\x7bmessage\x7d")]

/-- The table of styles as a literal. -/
def displayStyles : String :=
  let entry (style : String × String × String) : String :=
    Text.quoted style.1 ++ ": (<class 'logging." ++ style.2.1 ++ "'>, " ++
      Text.quoted style.2.2 ++ ")"
  "\x7b" ++ ", ".intercalate (styles.map entry) ++ "\x7d"

/-- The threshold of a name in any case; an unknown name is the threshold of information. -/
def threshold (name : String) : Threshold :=
  match Text.upperName name with
  | "NOTSET" => .number 0
  | "DEBUG" => .number 10
  | "INFO" => .number 20
  | "WARN" => .number 30
  | "WARNING" => .number 30
  | "ERROR" => .number 40
  | "CRITICAL" => .number 50
  | "FATAL" => .number 50
  | "_STYLES" => .table
  | "BASIC_FORMAT" => .text "%(levelname)s:%(name)s:%(message)s"
  | _ => .number 20

end Entitlement.Log
