import Entitlement.Entry

/-!
# `Entitlement.Main` — the command that starts the service

The command reads the variables of the settings, starts the service in a fresh process, and says
where it starts and as what, or why it does not.  Everything that is decided is decided by
`Entry.Session.start`; opening a socket is left to whoever calls the command.
-/
namespace Entitlement.Entry

/-- The variables of the environment that give settings, in capitals. -/
def variableNames : List String :=
  Settings.Name.all.map fun name => (({} : Settings.Options).before ++ name.key).toUpper

/-- The variables among the given ones that are set, with their values. -/
def readVariables : List String → IO Settings.Environment
  | [] => pure []
  | name :: names => do
    let value ← IO.getEnv name
    let others ← readVariables names
    match value with
    | some text => pure ((name, text) :: others)
    | none => pure others

/-- The line that says where the service starts. -/
def startLine (server : ServerStart) : String :=
  server.title ++ " " ++ server.version ++ " on " ++ server.host ++ ":" ++ toString server.port

end Entitlement.Entry

open Entitlement in
def main : IO UInt32 := do
  let environment ← Entry.readVariables Entry.variableNames
  match (Entry.Session.start { environment }).2 with
  | .ok server =>
    IO.println (Entry.startLine server)
    return 0
  | .error fault =>
    IO.eprintln fault.message
    return 1
