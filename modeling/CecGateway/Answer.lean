import CecGateway.Json.Printer
import CecGateway.Result

/-!
# Answers

The line of JSON that answers a request: its identifier, whether the command succeeded, and the
data or the failure.
-/

namespace CecGateway

structure Answer where
  id : Option Json
  outcome : Except Failure Data

namespace Answer

def ofResult (id : Option Json) (result : Result) : Answer := ⟨id, result.outcome⟩

def failure (id : Option Json) (reason : Failure) : Answer := ⟨id, .error reason⟩

/-- The answer to a line that is not a command. -/
def badInput (id : Option Json) : Answer := failure id .badInput

end Answer

def Device.toJson (d : Device) : Json :=
  .obj [("name", .str d.name), ("address", .str d.address), ("activeSource", .str d.activeSource),
    ("vendor", .str d.vendor), ("osd", .str d.osd), ("cecVersion", .str d.cecVersion),
    ("powerStatus", .str d.powerStatus), ("language", .str d.language)]

def Entry.toJson (e : Entry) : Json := .obj [("key", .str e.key), ("value", .str e.value)]

def Data.members : Data → List (String × Json)
  | .adapters names => [("cecAdapters", .arr (names.map .str))]
  | .devices found => [("devices", .arr (found.map (·.toJson)))]
  | .entries found => [("payload", .arr (found.map (·.toJson)))]
  | .setting key value => [("key", .str key), ("value", .str value)]
  | .applied => []

def Failure.members (f : Failure) : List (String × Json) :=
  [("errorCode", .int f.code), ("errorText", .str f.text)]

namespace Answer

def members (a : Answer) : List (String × Json) :=
  (a.id.map fun id => ("id", id)).toList ++
    match a.outcome with
    | .ok data => ("returnValue", .bool true) :: data.members
    | .error reason => ("returnValue", .bool false) :: reason.members

def render (a : Answer) : String := (Json.obj a.members).render

end Answer

end CecGateway
