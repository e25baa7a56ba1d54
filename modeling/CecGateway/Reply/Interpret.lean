import CecGateway.Reply.Scan
import CecGateway.Reply.Values

/-!
# From reply lines to results

The lines that an adapter tool prints for a command, read as the result of that command.
-/

namespace CecGateway.Reply

/-- The result of a command whose reply has these lines. A reply without lines is a success without
content. -/
def interpret (payload : Payload) (lines : List String) : Result :=
  if lines.isEmpty then .empty payload.kind
  else match payload with
    | .listAdapters => .success .listAdapters (.adapters (adapters lines))
    | .scan _ => .success .scan (.devices (devices lines))
    | .sendCommand _ _ _ command => ⟨.sendCommand, (sendCommand command lines).map .entries⟩
    | .getConfig key _ => .success .getConfig (.setting key (setting key lines))
    | .setConfig .. => .empty .setConfig

end CecGateway.Reply
