import Entitlement.Http.Response
import Entitlement.Log.System
import Entitlement.Settings.Source
import Entitlement.Store.Session

/-!
# `Entitlement.Http.Server` — the service at work

The service is constructed from settings in two stages.  Logging is configured with the service's
name and level; then the lookup configuration is made, so that a configuration without any source is
refused at construction and not at the first lookup.  Logging stays configured when the second stage
fails.

A server is constructed from settings, started, asked, and shut down.  Outside production it creates
its tables when it starts.  Its two loggers, one of the server and one of the lookups, write their
lines through the logging system; every step answers with the lines it wrote.

A lookup writes its log entries in the order in which they were made, and a request that makes no
lookup writes nothing.
-/
namespace Entitlement

/-! ## The service -/

def serviceTitle : String := "Principal Resolver"

def serviceVersion : String := "0.1.0"

/-- Logging after the construction of the service, and the configuration of its lookups. -/
def construct (logging : Log.System) (settings : Settings) :
    Log.System × Except Fault Lookup.Config :=
  match logging.configure settings.serviceName settings.logLevel with
  | (logging, .error fault) => (logging, .error fault)
  | (logging, .ok ()) => (logging, settings.config)

namespace Http

/-! ## A server -/

/-- A server: its stage, its store with the way lookups are made on it, and its logging. -/
structure Server where
  stage : Settings.Stage
  session : Store.Session
  logging : Log.System
  serverLogger : Log.Logger := { name := "principal_resolver.api.app" }
  lookupLogger : Log.Logger := { name := "principal_resolver.auth.resolver" }

/-- A request: the address under which the server is asked, the method, and the path behind the
address. -/
structure Request where
  base : String
  method : String
  path : String
deriving DecidableEq, Repr

/-- What is done with a server that runs. -/
inductive Step where
  | add (t : Table) (fields : Store.Named)
  | addRow (t : Table) (row : List Value)
  | create
  | request (asked : Request)

inductive Answer where
  | store (answer : Store.Answer)
  | response (r : Response)

namespace Server

/-- The settings made of an environment and keywords, the address of the database being given apart;
it must not be among the keywords under its exact name as well. -/
def settingsWith (environment : Settings.Environment) (address : String)
    (keywords : Settings.Keywords) : Except Fault Settings :=
  let name := Settings.Name.databaseUrl.key
  if keywords.any (·.1 == name) then
    .error (.repeatedKeyword "principal_resolver.settings.Settings" name)
  else Settings.build environment ((name, .text address) :: keywords)

/-- A server that is constructed and not yet started, or the failure of its construction. -/
def construct (environment : Settings.Environment) (address : String)
    (keywords : Settings.Keywords) (hook : Option Lookup.Hook) : Except Fault Server :=
  match settingsWith environment address keywords with
  | .error fault => .error fault
  | .ok settings =>
    match Entitlement.construct .fresh settings with
    | (_, .error fault) => .error fault
    | (logging, .ok config) =>
      .ok { stage := settings.stage, session := ⟨none, config, hook⟩, logging }

/-! ## Lines -/

/-- The server after an entry of its own, and the lines written. -/
def logOwn (server : Server) (event : String) (fields : Log.Fields) : Server × List Log.Fields :=
  let (logger, lines) := server.serverLogger.log server.logging .info (.text event) fields
  ({ server with serverLogger := logger }, lines.toOption.getD [])

/-- The call that logs an entry of a severity. -/
def methodOf : Log.Severity → Log.Method
  | .debug => .debug
  | .info => .info
  | .warning => .warning
  | .error => .error
  | .critical => .critical

/-- The server after the entries of a lookup, and the lines written. -/
def logEntries (server : Server) : List Lookup.LogEntry → Server × List Log.Fields
  | [] => (server, [])
  | entry :: rest =>
    let (logger, lines) := server.lookupLogger.log server.logging (methodOf entry.severity)
      (.text entry.event) entry.fields
    let (server, others) := logEntries { server with lookupLogger := logger } rest
    (server, lines.toOption.getD [] ++ others)

/-! ## Running -/

/-- The server when it has started, and the lines written. -/
def start (server : Server) : Server × List Log.Fields :=
  let config := server.session.config
  let (server, lines) := server.logOwn "startup"
    [("env", .text server.stage.word), ("enable_authorities", config.enableAuthorities),
      ("enable_groups", config.enableGroups)]
  let database := match server.stage with
    | .prod => server.session.database
    | _ => server.session.database.create
  ({ server with session := { server.session with database } }, lines)

def stop (server : Server) : List Log.Fields := (server.logOwn "shutdown" []).2

/-- The server after a request for a route, the response, and the lines written. -/
def answer (server : Server) : Route → Server × Response × List Log.Fields
  | .health => (server, .probe "ok", [])
  | .readiness => (server, .probe "ready", [])
  | .documentation => (server, .documentation, [])
  | .principal username =>
    let (outcome, acts) :=
      (server.session.plan username).run server.session.database.executor
    let (server, lines) := server.logEntries (Lookup.logEntries acts)
    (server, .ofLookup outcome, lines)

/-- The server after a request, the response, and the lines written. -/
def request (server : Server) (asked : Request) : Server × Response × List Log.Fields :=
  match destination asked.method asked.path with
  | .route r => server.answer r
  | .methodNotAllowed => (server, .methodNotAllowed, [])
  | .redirect path => (server, .redirect asked.base path, [])
  | .notFound => (server, .notFound, [])

def onStore (server : Server) (step : Store.Step) :
    Server × Except Fault Answer × List Log.Fields :=
  let (session, answer) := server.session.step step
  ({ server with session }, answer.map .store, [])

/-- One step: the server afterwards, the answer, and the lines written. -/
def step (server : Server) : Step → Server × Except Fault Answer × List Log.Fields
  | .add t fields => server.onStore (.add t fields)
  | .addRow t row => server.onStore (.addRow t row)
  | .create => server.onStore .create
  | .request asked =>
    let (server, response, lines) := server.request asked
    (server, .ok (.response response), lines)

/-- Steps one after the other: the server at the end, and the answers with their lines. -/
def run (server : Server) :
    List Step → Server × List (Except Fault Answer × List Log.Fields)
  | [] => (server, [])
  | step :: rest =>
    let (next, answer) := server.step step
    let (last, answers) := next.run rest
    (last, answer :: answers)

end Server
end Http
end Entitlement
