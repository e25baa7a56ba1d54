import CecGateway.Shell.Syntax

/-!
# Variables

The variables of a shell by name, each at most once.
-/

namespace CecGateway.Shell

abbrev Variables := List (Bytes × Bytes)

namespace Variables

def get? (vs : Variables) (name : Bytes) : Option Bytes := (vs.find? (·.1 = name)).map (·.2)

def erase (vs : Variables) (name : Bytes) : Variables := vs.filter (·.1 ≠ name)

def set (vs : Variables) (name value : Bytes) : Variables := (name, value) :: vs.erase name

end Variables

end CecGateway.Shell
