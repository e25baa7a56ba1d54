import CecGateway.Generic

/-!
# Handlers

A handler is offered commands. It claims a command and sees to its completion, or declines it and
hands on its payload, perhaps rewritten. The handler for LG televisions only watches; the generic
one claims everything; others may be added.
-/

namespace CecGateway

/-- A place in the chain; lower ranks are asked first. -/
inductive Rank
  | lgTelevision
  | samsung
  | generic
  deriving DecidableEq, Repr

namespace Rank

def level : Rank → Nat
  | lgTelevision => 0
  | samsung => 1
  | generic => 2

def label : Rank → String
  | lgTelevision => "lg-tv"
  | samsung => "samsung"
  | generic => "default"

end Rank

inductive Verdict
  /-- Claims it and completes it at once. -/
  | claim (result : Result)
  /-- Claims it and completes it later. -/
  | defer (result : Result)
  /-- Declines it and hands a payload on. -/
  | decline (payload : Payload)

/-- A handler given by its verdicts, which may depend on what it was offered before. -/
structure Custom where
  name : String
  rank : Rank
  verdict : List Payload → Payload → Verdict
  devices : List Device := []
  offers : List Payload := []

inductive Handler
  | lgTelevision
  | generic (g : Generic)
  | custom (c : Custom)

inductive Decision
  | claimed
  | deferred (result : Result)
  | declined (payload : Payload)

abbrev Lookup := String → Option Device

def Lookup.destination (lookup : Lookup) (payload : Payload) : Option Device :=
  payload.destination?.bind lookup

/-- A command to a television by LG is logged. -/
def lgEvents (lookup : Lookup) : Payload → List Event
  | .sendCommand _ destination _ command =>
    if (lookup destination).any (·.isLgTelevision) then [.lgAddressed destination command.name]
    else []
  | _ => []

namespace Handler

def rank : Handler → Rank
  | lgTelevision => .lgTelevision
  | generic _ => .generic
  | custom c => c.rank

def device? : Handler → Lookup
  | lgTelevision, _ => none
  | generic g, address => g.registry.device? address
  | custom c, address => c.devices.find? (·.address = address)

/-- What the handler itself has against a payload. -/
def validate : Handler → Payload → Except Failure Unit
  | generic g, payload => g.validate payload
  | _, _ => .ok ()

/-- Offers a command and waits until the hardware has nothing more to do for it. -/
def offer (hardware : Hardware) (lookup : Lookup) (command : Command) :
    Handler → Handler × Decision × List Event
  | lgTelevision => (lgTelevision, .declined command.payload, lgEvents lookup command.payload)
  | generic g =>
    let (g, events) := g.handle command
    let (g, later) := g.settle hardware false
    (generic g, .claimed, events ++ later)
  | custom c =>
    let h := custom { c with offers := c.offers ++ [command.payload] }
    match c.verdict c.offers command.payload with
    | .claim result => (h, .claimed, [.completed command.ticket result])
    | .defer result => (h, .deferred result, [])
    | .decline payload => (h, .declined payload, [])

def subscribe : Handler → Handler
  | generic g => generic g.subscribe
  | h => h

/-- A handler as it enters the chain: the generic one opens the hardware. -/
def start (hardware : Hardware) (observers : Nat) : Handler → Handler × List Event
  | generic g =>
    let (g, events) := { g with observers }.settle hardware false
    (generic g, events)
  | h => (h, [])

def drop (hardware : Hardware) : Handler → List Event
  | generic g => (g.drop hardware).2
  | _ => []

end Handler

end CecGateway
