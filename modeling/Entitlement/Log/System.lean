import Entitlement.Fault
import Entitlement.Log.Line

/-!
# `Entitlement.Log.System` — thresholds, services and loggers over time

Two things are configured, and they are configured differently.  The threshold of the process is
fixed by the first attempt to configure, even one that fails: a name that stands for a text or for a
table cannot be a threshold, that attempt fails, and the threshold stays at warnings.  The service
is that of the last attempt that succeeded; no attempt after the first can fail.

A logger is attached to the service configuration at its first use, or when fields are bound to it,
and keeps it for good; a later configuration reaches only loggers that are not attached yet.  A
logger to which fields are bound before anything was configured writes for a reader at a console and
never a line.

Some field names are taken: by the logger itself, by the operations that a call passes through, and
by the record from which a line takes its logger's name where one is given.
-/
namespace Entitlement.Log

/-- What a logger is attached to. -/
inductive Sink where
  /-- Nothing yet. -/
  | pending
  /-- A console, because nothing was configured. -/
  | console
  /-- The configuration of a service. -/
  | service (name : String)
deriving DecidableEq, Repr

/-- A logger: its name, the fields bound to it, and what it is attached to. -/
structure Logger where
  name : String
  bound : Fields := []
  sink : Sink := .pending

/-- The state of logging in a process. -/
structure System where
  threshold : Option Nat := none
  service : Option String := none
  context : Fields := []

def System.fresh : System := {}

/-- The threshold that holds before anything was configured, and when configuring it failed. -/
def defaultThreshold : Nat := 30

/-! ## Configuration -/

/-- The system after an attempt to configure it, and the fault of one that failed. -/
def System.configure (system : System) (service level : String) : System × Except Fault Unit :=
  match system.threshold with
  | some _ => ({ system with service := some service }, .ok ())
  | none =>
    match Log.threshold level with
    | .number n => ({ system with threshold := some n, service := some service }, .ok ())
    | .text s => ({ system with threshold := some defaultThreshold }, .error (.unknownLevel s))
    | .table =>
      ({ system with threshold := some defaultThreshold }, .error (.levelNotNumber displayStyles))

/-- The system with fields put into its context. -/
def System.addContext (system : System) (fields : Fields) : System :=
  { system with context := system.context.putAll fields }

/-! ## Loggers -/

/-- What a pending logger is attached to when it is used. -/
def System.sink (system : System) : Sink :=
  match system.service with
  | some name => .service name
  | none => .pending

def Logger.attach (logger : Logger) (system : System) : Logger :=
  match logger.sink with
  | .pending => { logger with sink := system.sink }
  | _ => logger

/-- The name under which loggers of a sink define binding. -/
def Sink.bindOperation : Sink → String
  | .pending => "BoundLoggerLazyProxy.bind"
  | .console => "BoundLoggerBase.bind"
  | .service _ => "BoundLogger.bind"

/-- A logger with fields bound to it, or the fault of binding a field by the name of the logger. -/
def Logger.bind (logger : Logger) (system : System) (fields : Fields) : Except Fault Logger :=
  if fields.has "self" then .error (.reservedField logger.sink.bindOperation "self")
  else
    let attached := logger.attach system
    .ok
      { attached with
        bound := attached.bound.putAll fields
        sink := if attached.sink = .pending then .console else attached.sink }

/-- The name a logger has in a line: the one without a name is the root. -/
def Logger.shownName (logger : Logger) : String :=
  if logger.name.isEmpty then "root" else logger.name

/-- The name under which loggers of a sink define a call. -/
def Sink.callOperation (method : Method) : Sink → String
  | .service _ => "BoundLogger." ++ method.name
  | _ => "_make_filtering_bound_logger.<locals>.make_method.<locals>.meth"

/-- The name under which loggers of a sink define what every call passes through. -/
def Sink.passOperation : Sink → String
  | .service _ => "BoundLogger._proxy_to_logger"
  | _ => "BoundLoggerBase._proxy_to_logger"

/-- The fault of a call with a field name that an operation has taken for itself. -/
def Sink.reservedField? (sink : Sink) (method : Method) (call : Fields) : Option Fault :=
  if call.has "event" then some (.reservedField (sink.callOperation method) "event")
  else if call.has "self" then some (.reservedField (sink.callOperation method) "self")
  else if call.has "method_name" then some (.reservedField sink.passOperation "method_name")
  else none

/-- Whether an event of a severity is written. -/
def System.passes (system : System) (severity : Severity) : Bool :=
  system.threshold.getD defaultThreshold ≤ severity.number

/-- The lines of a call whose event is written, or the fault of one whose fields name a record: a
value other than null has no name to give to the logger. -/
def Logger.lines (logger : Logger) (system : System) (service : String) (severity : Severity)
    (event : Value) (call : Fields) : Except Fault (List Fields) :=
  match ((system.context.putAll logger.bound).putAll call).lookup "_record" with
  | none | some .null =>
    .ok [line service logger.shownName severity system.context logger.bound call event]
  | some v => .error (.noAttribute v "name")

/-- What a call writes through a logger that is attached: the lines, or a fault of the call. -/
def Logger.write (logger : Logger) (system : System) (method : Method) (event : Value)
    (call : Fields) : Except Fault (List Fields) :=
  match logger.sink.reservedField? method call with
  | some fault => .error fault
  | none =>
    match logger.sink with
    | .service service =>
      if system.passes method.severity then
        logger.lines system service method.severity event call
      else .ok []
    | _ => .ok []

/-- A call: the logger afterwards, and what the call writes. -/
def Logger.log (logger : Logger) (system : System) (method : Method) (event : Value)
    (call : Fields) : Logger × Except Fault (List Fields) :=
  let attached := logger.attach system
  (attached, attached.write system method event call)

end Entitlement.Log
