import CecGateway.Device
import CecGateway.Failure
import CecGateway.Payload

/-!
# Results

A command ends with the data of its kind or with a failure.
-/

namespace CecGateway

structure Entry where
  key : String
  value : String
  deriving DecidableEq, Repr

inductive Data
  | adapters (names : List String)
  | devices (devices : List Device)
  | entries (entries : List Entry)
  | setting (key value : String)
  | applied
  deriving DecidableEq, Repr

/-- What an answer without content means for each kind. -/
def Data.empty : Kind → Data
  | .listAdapters => adapters []
  | .scan => devices []
  | .sendCommand => entries []
  | .getConfig => setting "" ""
  | .setConfig => applied

structure Result where
  kind : Kind
  outcome : Except Failure Data

namespace Result

def success (kind : Kind) (data : Data) : Result := ⟨kind, .ok data⟩

def empty (kind : Kind) : Result := success kind (.empty kind)

def failure (kind : Kind) (reason : Failure) : Result := ⟨kind, .error reason⟩

def data? (r : Result) : Option Data := r.outcome.toOption

end Result

end CecGateway
