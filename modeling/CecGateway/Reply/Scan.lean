import CecGateway.Device
import CecGateway.Text.Marker

/-!
# Lists of adapters and devices

Reply lines that name the ports of adapters, and dumps of the devices on the bus. A dump holds one
record for each line with the marker `device`; a line after it fills at most one field, the first
in the order of `fields` that is still empty and whose marker it contains.
-/

namespace CecGateway.Reply

/-- The adapter of a port; the built-in port of a Raspberry Pi has a name of its own. -/
def adapterOfPort (port : String) : String := if port = "RPI" then "cec0" else port

/-- One adapter for each line that names a port. -/
def adapters (lines : List String) : List String :=
  (lines.filter (Line.contains "com port")).map fun line => adapterOfPort (Line.value line)

structure Field where
  marker : String
  quoted : Bool
  get : Device → String
  set : String → Device → Device

def fields : List Field :=
  [⟨"address", false, (·.address), fun v d => { d with address := v }⟩,
    ⟨"active source", false, (·.activeSource), fun v d => { d with activeSource := v }⟩,
    ⟨"vendor", false, (·.vendor), fun v d => { d with vendor := v }⟩,
    ⟨"osd string", true, (·.osd), fun v d => { d with osd := v }⟩,
    ⟨"CEC version", false, (·.cecVersion), fun v d => { d with cecVersion := v }⟩,
    ⟨"power status", false, (·.powerStatus), fun v d => { d with powerStatus := v }⟩,
    ⟨"language", true, (·.language), fun v d => { d with language := v }⟩]

def Field.read (f : Field) (line : String) : String :=
  if f.quoted then Line.quotedValue line else Line.value line

def fill (d : Device) (line : String) : Device :=
  match fields.find? fun f => (f.get d).isEmpty && Line.contains f.marker line with
  | some f => f.set (f.read line) d
  | none => d

def startsRecord (line : String) : Bool := Line.contains "device" line

/-- The records of a dump, with the record that the next line may fill. -/
def records : Option Device → List String → List Device
  | current, [] => current.toList
  | current, line :: rest =>
    if startsRecord line then
      current.toList ++ records (some { name := Line.value line }) rest
    else records (current.map (fill · line)) rest

def devices (lines : List String) : List Device := records none lines

end CecGateway.Reply
