/-!
# Failures

What a client is told when a command fails: a class with a fixed code and text.
-/

namespace CecGateway

inductive Failure
  | badInput
  | invalidParameters
  | invalidCommand
  | invalidAdapter
  | invalidDestination
  | hardwareUnavailable
  | unknown
  deriving DecidableEq, Repr

namespace Failure

instance : Inhabited Failure := ⟨unknown⟩

def code : Failure → Nat
  | badInput => 1
  | invalidParameters => 2
  | invalidAdapter => 3
  | invalidDestination => 4
  | invalidCommand => 5
  | hardwareUnavailable => 6
  | unknown => 12

def text : Failure → String
  | badInput => "The JSON input does not match the expected schema"
  | invalidParameters => "Invalid input parameter"
  | invalidAdapter => "CEC adapter not found"
  | invalidDestination => "Destination device not found"
  | invalidCommand => "Invalid CEC command"
  | hardwareUnavailable => "No response from the CEC adapter"
  | unknown => "Unknown error"

theorem code_injective {f g : Failure} (h : f.code = g.code) : f = g := by
  cases f <;> cases g <;> first | rfl | (simp [code] at h)

end Failure

end CecGateway
