import CecGateway.Config
import CecGateway.Session

/-!
# The daemon

A daemon is started from a configuration: it is loaded and validated, logging is set up, and a
controller is built with the handler for LG televisions and the generic one. Then it serves
sessions. Each stage is reported as a health event.
-/

namespace CecGateway

inductive StartError
  | configuration (reason : String)
  | invalidConfiguration (error : ConfigError)
  | telemetry (reason : String)
  deriving DecidableEq, Repr

def StartError.message : StartError → String
  | configuration reason => "failed to load configuration: " ++ reason
  | invalidConfiguration error => "invalid configuration: " ++ error.message
  | telemetry reason => "failed to initialise telemetry: " ++ reason

inductive Health
  | starting
  | handlersReady (ranks : List Rank) (isComplete : Bool)
  | succeeded (config : Config)
  | failed (error : StartError)
  | sessionClosed (requests : Nat)
  deriving DecidableEq, Repr

namespace Health

def level : Health → String
  | failed _ => "ERROR"
  | handlersReady _ false => "WARN"
  | _ => "INFO"

def message : Health → String
  | starting => "starting daemon bootstrap"
  | handlersReady _ true => "handler chain ready"
  | handlersReady _ false => "handler chain built with failures"
  | succeeded _ => "daemon bootstrap completed"
  | failed _ => "daemon bootstrap failed"
  | sessionClosed _ => "input closed"

def name : Health → String
  | starting => "bootstrap_starting"
  | handlersReady _ true => "handlers_ready"
  | handlersReady _ false => "handlers_degraded"
  | succeeded _ => "bootstrap_succeeded"
  | failed _ => "bootstrap_failed"
  | sessionClosed _ => "session_closed"

/-- The labels of ranks as a list of quoted words. -/
def labels (ranks : List Rank) : String :=
  "[" ++ String.intercalate ", " (ranks.map fun r => "\"" ++ r.label ++ "\"") ++ "]"

def fields (h : Health) : List (String × String) :=
  ("event", h.name) :: match h with
    | starting => []
    | handlersReady ranks _ => [("handlers", labels ranks)]
    | succeeded config =>
      [("adapter_command", config.adapterCommand), ("default_adapter", config.defaultAdapter),
        ("reply_timeout_ms", Decimal.render config.replyTimeout.toNat),
        ("log_filter", config.logFilter), ("log_format", config.logFormat.title)]
    | failed error => [("error", error.message)]
    | sessionClosed requests => [("requests", Decimal.render requests)]

end Health

inductive Trace
  | health (h : Health)
  /-- The hardware is asked for. -/
  | provided (adapterCommand : String) (replyTimeout : UInt64)
  | event (e : Event)

structure Surroundings where
  load : Except String Config
  /-- Sets up logging with a filter, which may not be one. -/
  installLog : Config → Except String Unit := fun _ => .ok ()
  hardware : Config → Hardware

structure Daemon where
  config : Config
  hardware : Hardware
  controller : Controller

namespace Daemon

/-- The handlers of a daemon, the one for LG televisions first. -/
def registered (defaultAdapter : String) : Controller :=
  (({} : Controller).register ⟨.lgTelevision, fun _ => .ok .lgTelevision⟩).register
    ⟨.generic, fun _ => .ok (.generic { defaultAdapter })⟩

/-- The configuration, once it is loaded, valid and has logging set up. -/
def configure (s : Surroundings) : Except StartError Config := do
  let config ← s.load.mapError .configuration
  config.validate.mapError .invalidConfiguration
  (s.installLog config).mapError .telemetry
  return config

def start (s : Surroundings) : Except StartError Daemon × List Trace :=
  match configure s with
  | .error error => (.error error, [.health .starting, .health (.failed error)])
  | .ok config =>
    let hardware := s.hardware config
    let (controller, chain, events) := (registered config.defaultAdapter).setUp hardware
    (.ok ⟨config, hardware, controller⟩,
      [.health .starting, .provided config.adapterCommand config.replyTimeout] ++
        events.map .event ++
        [.health (.handlersReady controller.handlerRanks chain.isComplete),
          .health (.succeeded config)])

/-- Serves one input; a session that ends well is reported. -/
def serve (d : Daemon) (source : Source) (sink : Sink) : Daemon × Served × List Trace :=
  let served := CecGateway.serve d.hardware d.controller source sink
  let closing := match served.result with
    | .ok summary => [.health (.sessionClosed summary.requests)]
    | .error _ => []
  ({ d with controller := served.controller }, served, served.events.map .event ++ closing)

def stop (d : Daemon) : List Trace := (d.controller.drop d.hardware).map .event

end Daemon

end CecGateway
