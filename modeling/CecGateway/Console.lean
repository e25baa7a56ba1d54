import CecGateway.Config.Layers
import CecGateway.Daemon
import CecGateway.LogFilter
import CecGateway.Tool

/-!
# The console

The daemon as it is started from a command line: it serves the standard input with the adapter
tool of its configuration, and ends with a status.
-/

namespace CecGateway

def LogFilter.check (filter : String) : Except String Unit :=
  if isValid filter then .ok () else .error ("invalid log filter: " ++ filter)

def Tool.ofConfig (config : Config) : Tool :=
  { executable := config.adapterCommand, replyTimeout := config.replyTimeout.toNat }

namespace Console

def surroundings (place : Layers.Place) : Surroundings :=
  { load := (Layers.load place).mapError (·.message)
    installLog := fun config => LogFilter.check config.logFilter
    hardware := fun config => (Tool.ofConfig config).hardware place.files }

/-- What a run leaves: its status, the lines it wrote, and why it could not start. -/
structure Ending where
  status : UInt32
  lines : List String := []
  complaint? : Option String := none
  deriving DecidableEq, Repr

def run (place : Layers.Place) (input : List UInt8) : Ending :=
  match (Daemon.start (surroundings place)).1 with
  | .error error => { status := 1, complaint? := some ("cecd: " ++ error.message) }
  | .ok daemon =>
    let (_, served, _) := daemon.serve { bytes := input } {}
    let status := match served.result with
      | .ok _ => 0
      | .error _ => 1
    { status, lines := served.written }

end Console

end CecGateway
