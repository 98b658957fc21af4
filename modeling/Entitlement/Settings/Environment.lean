import Entitlement.Fault

/-!
# `Entitlement.Settings.Environment` — the variables a process is given

An environment is a list of variables, each name at most once, in the order in which they were first
set.  Not every name and value can be set: a name has at least one character and no equals sign, and
neither name nor value holds the null character, because the system takes both up to that character.
Unsetting a variable that is not there changes nothing and is no mistake.
-/
namespace Entitlement.Settings

/-- The variables of an environment, in order. -/
abbrev Environment := List (String × String)

/-- What is given for variables, by their names; null takes a variable away. -/
abbrev Variables := List (String × Value)

def holdsNull (s : String) : Bool := s.toList.contains '\x00'

/-- The fault of setting a variable that cannot be set. -/
def variableFault? (name value : String) : Option Fault :=
  if holdsNull name || holdsNull value then some .nullInVariable
  else if name.toList.contains '=' then some .equalsInVariable
  else if name.isEmpty then some .unnamedVariable
  else none

namespace Environment

/-- The environment with a variable put in; one that is there keeps its place. -/
def put (environment : Environment) (name value : String) : Environment :=
  if environment.any (·.1 == name) then
    environment.map fun var => if var.1 == name then (name, value) else var
  else environment ++ [(name, value)]

def unset (environment : Environment) (name : String) : Environment :=
  environment.filter fun var => var.1 != name

/-- The environment with a variable set, or taken away by null. -/
def set (environment : Environment) (name : String) : Value → Except Fault Environment
  | .null => .ok (environment.unset name)
  | .text value =>
    match variableFault? name value with
    | some fault => .error fault
    | none => .ok (environment.put name value)
  | v => .error (.variableNotText v)

/-- The environment with several variables set one after the other. -/
def setAll (environment : Environment) : Variables → Except Fault Environment
  | [] => .ok environment
  | (name, v) :: rest =>
    match environment.set name v with
    | .error fault => .error fault
    | .ok changed => setAll changed rest

end Environment
end Entitlement.Settings
