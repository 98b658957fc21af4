import Entitlement.Http.Server

/-!
# `Entitlement.Entry` — starting the service, and the settings it is started with

A process reads its settings once and keeps them.  Asking for them, or starting the service, builds
them from the environment when none are kept, and keeps them only when that succeeds; so a failed
attempt is made anew the next time, and a change of the environment goes unnoticed while settings
are kept.

A variable that cannot be set is no failure of the process but of whoever runs it, and ends the run.

Starting has three stages that can fail, in this order: the settings, the configuration of logging,
and the lookup configuration.  Only when all three succeed does the server start, at the address of
the kept settings.  A failure of the last two leaves the settings kept.
-/
namespace Entitlement

/-- What the server is started with. -/
structure ServerStart where
  host : String
  port : Int
  title : String
  version : String
deriving DecidableEq, Repr

namespace Entry

/-- The state of a process: its environment, the settings it keeps, and its logging. -/
structure Session where
  environment : Settings.Environment := []
  kept : Option Settings := none
  logging : Log.System := .fresh

inductive Step where
  | setVariables (given : Settings.Variables)
  | get
  | clear
  | start

inductive Answer where
  | nothing
  | settings (s : Settings)
  | started (server : ServerStart)

/-- The kept settings, or those of the environment, which are then kept. -/
def Session.settings (session : Session) : Session × Except Fault Settings :=
  match session.kept with
  | some s => (session, .ok s)
  | none =>
    match Settings.build session.environment [] with
    | .ok s => ({ session with kept := some s }, .ok s)
    | .error fault => (session, .error fault)

def serverFor (s : Settings) : ServerStart := ⟨s.apiHost, s.apiPort, serviceTitle, serviceVersion⟩

def Session.start (session : Session) : Session × Except Fault ServerStart :=
  let (session, settings) := session.settings
  match settings with
  | .error fault => (session, .error fault)
  | .ok s =>
    let (logging, config) := construct session.logging s
    ({ session with logging }, config.map fun _ => serverFor s)

/-- One step: the session afterwards, and the answer; or the fault that ends the run. -/
def Session.step (session : Session) : Step → Except Fault (Session × Except Fault Answer)
  | .setVariables given =>
    (session.environment.setAll given).map fun environment =>
      ({ session with environment }, .ok .nothing)
  | .get =>
    let (session, settings) := session.settings
    .ok (session, settings.map .settings)
  | .clear => .ok ({ session with kept := none }, .ok .nothing)
  | .start =>
    let (session, server) := session.start
    .ok (session, server.map .started)

/-- Steps one after the other: the session at the end, and the answers; or the fault that ended the
run. -/
def Session.run (session : Session) :
    List Step → Except Fault (Session × List (Except Fault Answer))
  | [] => .ok (session, [])
  | step :: rest =>
    match session.step step with
    | .error fault => .error fault
    | .ok (next, answer) =>
      match next.run rest with
      | .error fault => .error fault
      | .ok (last, answers) => .ok (last, answer :: answers)

end Entry
end Entitlement
