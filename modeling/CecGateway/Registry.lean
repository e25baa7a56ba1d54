import CecGateway.Device

/-!
# The registry

The adapters of the last list and the devices of all scans, a later record for an address in place
of an earlier one.
-/

namespace CecGateway

structure Registry where
  adapters : List String := []
  devices : List Device := []
  deriving DecidableEq, Repr

namespace Registry

def hasAdapter (r : Registry) (name : String) : Bool := r.adapters.contains name

def device? (r : Registry) (address : String) : Option Device :=
  r.devices.find? (·.address = address)

def replaceAdapters (r : Registry) (names : List String) : Registry := { r with adapters := names }

/-- Removes the records with the address of `d` and appends `d`. -/
def put (devices : List Device) (d : Device) : List Device :=
  devices.filter (·.address ≠ d.address) ++ [d]

def mergeDevices (r : Registry) (scanned : List Device) : Registry :=
  { r with devices := scanned.foldl put r.devices }

end Registry

end CecGateway
