import CecGateway.Text.Decimal

/-!
# Devices

A device on the bus as a scan reports it, every field as text.
-/

namespace CecGateway

structure Device where
  name : String := ""
  address : String := ""
  activeSource : String := ""
  vendor : String := ""
  osd : String := ""
  cecVersion : String := ""
  powerStatus : String := ""
  language : String := ""
  deriving DecidableEq, Repr, Inhabited

namespace Device

def hasLogicalAddress (d : Device) : Bool := d.address.toList.all Decimal.isDigit

/-- A television by LG. -/
def isLgTelevision (d : Device) : Bool := d.name = "TV" && d.vendor = "LG"

end Device

end CecGateway
