import CecGateway.Handler

/-!
# The controller

Handlers are registered by rank and built once, when the first command arrives or at request. From
then on the chain is fixed. A command is offered along the chain until a handler claims it; one
that nobody claims fails.
-/

namespace CecGateway

/-- Builds a handler, which may fail; it can look for devices. -/
abbrev Factory := Lookup → Except Fault Handler

structure Registration where
  rank : Rank
  factory : Factory

structure Chain where
  handlers : List Handler
  isComplete : Bool

structure Controller where
  /-- What is registered and not built, by rank. -/
  registrations : List Registration := []
  chain? : Option Chain := none
  observers : Nat := 0
  /-- Claimed commands whose handlers complete them later. -/
  deferred : List (Nat × Result) := []

namespace Chain

/-- Offers a command to the handlers from a place on, until one claims it. -/
def offer (hardware : Hardware) (lookup : Lookup) (ticket : Nat) :
    Nat → List Handler → Payload → List Handler × Decision × List Event
  | _, [], payload => ([], .declined payload, [])
  | place, h :: rest, payload =>
    let (h, decision, events) := h.offer hardware lookup ⟨ticket, payload⟩
    let events := .offered place payload (lookup.destination payload) :: events
    match decision with
    | .declined payload =>
      let (rest, decision, later) := offer hardware lookup ticket (place + 1) rest payload
      (h :: rest, decision, events ++ later)
    | decision => (h :: rest, decision, events)

/-- Runs the factories from a place on, and starts what they build. -/
def build (hardware : Hardware) (lookup : Lookup) (observers : Nat) :
    Nat → List Registration → Chain × List Event
  | _, [] => (⟨[], true⟩, [])
  | place, r :: rest =>
    match r.factory lookup with
    | .ok h =>
      let (h, events) := h.start hardware observers
      let (chain, later) := build hardware lookup observers (place + 1) rest
      ({ chain with handlers := h :: chain.handlers }, .built place :: events ++ later)
    | .error _ =>
      let (chain, later) := build hardware lookup observers (place + 1) rest
      ({ chain with isComplete := false }, .built place :: later)

end Chain

namespace Controller

/-- Adds a registration behind all of the same or a lower rank. -/
def register (c : Controller) (r : Registration) : Controller :=
  let isBefore (other : Registration) : Bool := other.rank.level ≤ r.rank.level
  { c with
    registrations :=
      c.registrations.takeWhile isBefore ++ r :: c.registrations.dropWhile isBefore }

def registeredRanks (c : Controller) : List Rank := c.registrations.map (·.rank)

def isSetUp (c : Controller) : Bool := c.chain?.isSome

def handlers (c : Controller) : List Handler := (c.chain?.map (·.handlers)).getD []

def handlerRanks (c : Controller) : List Rank := c.handlers.map (·.rank)

/-- The last handler of the chain knows the devices. -/
def device? (c : Controller) (address : String) : Option Device :=
  c.handlers.getLast?.bind (·.device? address)

/-- The chain, built from what is registered when there is none yet. -/
def setUp (hardware : Hardware) (c : Controller) : Controller × Chain × List Event :=
  match c.chain? with
  | some chain => (c, chain, [])
  | none =>
    let (chain, events) := Chain.build hardware c.device? c.observers 0 c.registrations
    ({ c with registrations := [], chain? := some chain }, chain, events)

def subscribe (c : Controller) : Controller :=
  let extend (chain : Chain) : Chain := { chain with handlers := chain.handlers.map (·.subscribe) }
  { c with observers := c.observers + 1, chain? := c.chain?.map extend }

/-- Offers a command along the chain; tells whether a handler has claimed it. -/
def dispatch (hardware : Hardware) (c : Controller) (command : Command) :
    Controller × Bool × List Event :=
  let (c, chain, events) := c.setUp hardware
  let (handlers, decision, later) :=
    Chain.offer hardware c.device? command.ticket 0 chain.handlers command.payload
  let c := { c with chain? := some { chain with handlers } }
  match decision with
  | .claimed => (c, true, events ++ later)
  | .deferred result =>
    ({ c with deferred := c.deferred ++ [(command.ticket, result)] }, true, events ++ later)
  | .declined _ =>
    (c, false, events ++ later ++
      [.completed command.ticket (.failure command.payload.kind .unknown)])

def completeDeferred (c : Controller) : Controller × List Event :=
  ({ c with deferred := [] }, c.deferred.map fun d => .completed d.1 d.2)

def drop (hardware : Hardware) (c : Controller) : List Event :=
  c.handlers.flatMap (·.drop hardware)

end Controller

end CecGateway
