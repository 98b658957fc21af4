import Entitlement.Log.Severity
import Entitlement.Value

/-!
# `Entitlement.Log.Line` — what one line of the log holds

A line is a list of fields.  Fields come from three places: the context of the process, those bound
to the logger, and those of the call; where a name occurs in several of them the later place wins.
The event of the call follows, unless it is null.

Then the line is completed.  Severity and logger are the line's own and replace what was given under
their names.  The service is filled in only where nothing was given.  A password never stands in a
line, whichever place supplied it; only the top level is looked at.  The field for the cause of an
exception is consumed, and the time stamp is not part of a line as it is modelled here.

Values that a line cannot hold are written as their literal.
-/
namespace Entitlement.Log

/-- Named values, each name at most once. -/
abbrev Fields := List (String × Value)

namespace Fields

/-- The fields with one value put under a name; a name that is there keeps its place. -/
def put (fields : Fields) (name : String) (v : Value) : Fields :=
  if fields.any (·.1 == name) then
    fields.map fun field => if field.1 == name then (name, v) else field
  else fields ++ [(name, v)]

/-- The fields with all of others put over them. -/
def putAll (fields others : Fields) : Fields :=
  others.foldl (fun acc field => acc.put field.1 field.2) fields

def drop (fields : Fields) (name : String) : Fields :=
  fields.filter fun field => field.1 != name

def has (fields : Fields) (name : String) : Bool := fields.any (·.1 == name)

end Fields

/-! ## Values in a line -/

mutual

/-- The value as a line holds it: byte sequences are written as their literal. -/
def rendered : Value → Value
  | .bytes bs => .text (Text.quotedBytes bs)
  | .list items => .list (renderedItems items)
  | .object fields => .object (renderedFields fields)
  | v => v

def renderedItems : List Value → List Value
  | [] => []
  | v :: rest => rendered v :: renderedItems rest

/-- The fields of an object as a line holds them. -/
def renderedFields : List (String × Value) → List (String × Value)
  | [] => []
  | (name, v) :: rest => (name, rendered v) :: renderedFields rest

end

/-! ## A line -/

/-- The event of a call put over its fields; null is no event. -/
def withEvent (fields : Fields) : Value → Fields
  | .null => fields
  | event => fields.put "event" event

/-- The line of a call: the service of the configuration, the logger's name, the severity, the three
places fields come from, and the event. -/
def line (service logger : String) (severity : Severity) (context bound call : Fields)
    (event : Value) : Fields :=
  let given := withEvent ((context.putAll bound).putAll call) event
  let named := (given.put "level" (.text severity.name)).put "logger" (.text logger)
  let complete := if named.has "service" then named else named.put "service" (.text service)
  renderedFields (((complete.drop "password").drop "exc_info").drop "timestamp")

end Entitlement.Log
