import Entitlement.Log.System

/-!
# `Entitlement.Log.Session` — logging with named loggers

A session is a logging system together with the loggers that were asked for, each kept under the
name it was asked for by.  Asking again for a name puts a new logger in its place.
-/
namespace Entitlement.Log

/-- A logging system and its loggers by name. -/
structure Session where
  system : System := .fresh
  loggers : List (String × Logger) := []

inductive Step where
  | configure (service level : String)
  | context (fields : Fields)
  | get (name : String)
  | bind (name : String) (fields : Fields)
  | log (name : String) (method : Method) (event : Value) (call : Fields)

/-- The session with a logger kept under a name. -/
def Session.keep (session : Session) (name : String) (logger : Logger) : Session :=
  { session with loggers := (name, logger) :: session.loggers.filter (·.1 != name) }

/-- One step: the session afterwards, and the lines the step writes. -/
def Session.step (session : Session) : Step → Session × Except Fault (List Fields)
  | .configure service level =>
    let (system, outcome) := session.system.configure service level
    ({ session with system }, outcome.map fun _ => [])
  | .context fields => ({ session with system := session.system.addContext fields }, .ok [])
  | .get name => (session.keep name { name }, .ok [])
  | .bind name fields =>
    match session.loggers.lookup name with
    | some logger =>
      match logger.bind session.system fields with
      | .ok bound => (session.keep name bound, .ok [])
      | .error fault => (session, .error fault)
    | none => (session, .error (.unknownLogger name))
  | .log name method event call =>
    match session.loggers.lookup name with
    | some logger =>
      let (logger, outcome) := logger.log session.system method event call
      (session.keep name logger, outcome)
    | none => (session, .error (.unknownLogger name))

/-- Steps one after the other: the session at the end, and what each step writes. -/
def Session.run (session : Session) : List Step → Session × List (Except Fault (List Fields))
  | [] => (session, [])
  | step :: rest =>
    let (next, answer) := session.step step
    let (last, answers) := next.run rest
    (last, answer :: answers)

end Entitlement.Log
