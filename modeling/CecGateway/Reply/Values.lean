import CecGateway.Result
import CecGateway.Text.Marker

/-!
# Values in a reply

Each value that a client may ask for has a line that reports it, found by a marker, and a way to
read it off that line.
-/

namespace CecGateway.Reply

/-- The value on the first line with the marker, or nothing. -/
def reported (marker : String) (read : String → String) (lines : List String) : String :=
  match Line.find? marker lines with
  | some line => read line
  | none => ""

/-- The single entry of a sub-command that reports one value, under the name of its argument. -/
def single (key : String) (command : SubCommand) (value : String) : List Entry :=
  [⟨(command.arguments.head?.map (·.name)).getD key, value⟩]

/-- The value of one argument of `system-information`. -/
def systemInformation (lines : List String) (name : String) : String :=
  match name with
  | "vendor-id" => reported "vendor id" Line.value lines
  | "version" => reported "CEC version" Line.value lines
  | "name" => reported "OSD name" Line.quotedValue lines
  | "language" => reported "language" Line.quotedValue lines
  | "is-active" =>
    reported "active" (fun l => if Line.contains "not active" l then "false" else "true") lines
  | _ => ""

/-- What a response line says about a command that reports no value. -/
def status (lines : List String) : Except Failure (List Entry) :=
  match Line.find? "response" lines with
  | none => .ok []
  | some line =>
    let answer := Text.trimmed (Line.value line)
    if answer = "success" then .ok []
    else if answer ∈ ["failure", "failed", "error"] then .error .hardwareUnavailable
    else .ok [⟨"response", answer⟩]

def sendCommand (command : SubCommand) (lines : List String) : Except Failure (List Entry) :=
  match command.name with
  | "report-power-status" =>
    .ok (single "pwr-state" command (reported "power status" Line.value lines))
  | "report-audio-status" => .ok (single "audio-status" command (reported "mute" Line.value lines))
  | "set-volume" => .ok (single "volume" command (reported "volume" Line.value lines))
  | "osd-display" => .ok (single "display-text" command (reported "OSD" id lines))
  | "system-information" =>
    .ok (command.arguments.map fun a => ⟨a.name, systemInformation lines a.name⟩)
  | "active" | "one-touch-play" | "vendor-commands" => status lines
  | _ => .ok []

/-- The line of a physical address has the marker `address`, but not that of a logical one. -/
def physicalAddress (lines : List String) : String :=
  match lines.find? fun line =>
    Line.contains "address" line && !Line.contains "logical address" line with
  | some line => Line.valueAfter "address" line
  | none => ""

def setting (key : String) (lines : List String) : String :=
  match key with
  | "vendorId" => reported "vendor id" Line.value lines
  | "version" => reported "CEC version" Line.value lines
  | "osd" => reported "OSD name" Line.quotedValue lines
  | "language" => reported "language" Line.quotedValue lines
  | "powerState" => reported "power status" Line.value lines
  | "physicalAddress" => physicalAddress lines
  | "logicalAddress" => reported "logical address" (Line.valueAfter "logical address") lines
  | _ => ""

end CecGateway.Reply
