import CecGateway.Failure
import CecGateway.Text.Decimal

/-!
# Faults

What can go wrong between the gateway and the adapter tool.
-/

namespace CecGateway

inductive Fault
  | executableNotFound (path : String)
  | spawnFailed (command message : String)
  | io (command message : String)
  | timeout (command : String) (milliseconds : Nat)
  | nonZeroExit (command : String) (status : Int)
  | limitExceeded (field message : String)
  | queueClosed
  deriving DecidableEq, Repr

namespace Fault

def message : Fault → String
  | executableNotFound path => "adapter executable not found: " ++ path
  | spawnFailed command reason => "adapter '" ++ command ++ "' failed to start: " ++ reason
  | io command reason => "I/O error running adapter command '" ++ command ++ "': " ++ reason
  | timeout command milliseconds =>
    "adapter command '" ++ command ++ "' timed out after " ++ Decimal.render milliseconds ++ "ms"
  | nonZeroExit command status =>
    "adapter command '" ++ command ++ "' exited with status " ++ Decimal.renderInt status
  | limitExceeded field reason =>
    "native command field '" ++ field ++ "' exceeds the adapter limit: " ++ reason
  | queueClosed => "command queue is closed"

/-- A command that exceeds a limit is the client's mistake; all else is the hardware's. -/
def failure : Fault → Failure
  | limitExceeded _ _ => .invalidParameters
  | _ => .hardwareUnavailable

end Fault

end CecGateway
