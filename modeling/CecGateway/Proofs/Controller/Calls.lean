import CecGateway.Proofs.Controller

/-!
# Calls of the controller

Handlers are registered, the chain is built, commands are dispatched and observers subscribe, in any
order and with any hardware.
-/

namespace CecGateway

/-! ## What is seen of the controller -/

namespace Event

/-- The offers, each with the place of the handler that is asked. -/
def offerings (events : List Event) : List (Nat × Payload) :=
  events.filterMap fun
    | .offered place payload _ => some (place, payload)
    | _ => none

/-- The places of the registrations whose factories are run. -/
def builds (events : List Event) : List Nat :=
  events.filterMap fun
    | .built place => some place
    | _ => none

variable {events : List Event}

@[simp]
theorem offerings_append (events later : List Event) :
    offerings (events ++ later) = offerings events ++ offerings later := by
  simp [offerings]

@[simp]
theorem builds_append (events later : List Event) :
    builds (events ++ later) = builds events ++ builds later := by
  simp [builds]

@[simp]
theorem offerings_offered (place : Nat) (payload : Payload) (seen : Option Device)
    (events : List Event) :
    offerings (.offered place payload seen :: events) = (place, payload) :: offerings events := rfl

@[simp]
theorem offerings_built (place : Nat) (events : List Event) :
    offerings (.built place :: events) = offerings events := rfl

@[simp]
theorem builds_built (place : Nat) (events : List Event) :
    builds (.built place :: events) = place :: builds events := rfl

@[simp]
theorem builds_offered (place : Nat) (payload : Payload) (seen : Option Device)
    (events : List Event) : builds (.offered place payload seen :: events) = builds events := rfl

theorem offerings_eq_nil (h : ∀ e ∈ events, e.isControl = false) : offerings events = [] :=
  filterMap_eq_nil h fun e he => by cases e <;> first | rfl | contradiction

theorem builds_eq_nil (h : ∀ e ∈ events, e.isControl = false) : builds events = [] :=
  filterMap_eq_nil h fun e he => by cases e <;> first | rfl | contradiction

end Event

namespace Handler

theorem isControl_offer (hardware : Hardware) (lookup : Lookup) (command : Command) (h : Handler) :
    ∀ e ∈ (h.offer hardware lookup command).2.2, e.isControl = false := by
  cases h with
  | lgTelevision =>
      simp only [offer, lgEvents]
      split
      · split <;> simp [Event.isControl]
      · simp
  | generic g =>
      exact List.forall_mem_append.mpr
        ⟨g.isControl_handle command, (g.handle command).1.isControl_settle hardware false⟩
  | custom c =>
      simp only [offer]
      split <;> simp [Event.isControl]

theorem isControl_start (hardware : Hardware) (observers : Nat) (h : Handler) :
    ∀ e ∈ (h.start hardware observers).2, e.isControl = false := by
  cases h with
  | generic g => exact Generic.isControl_settle { g with observers } hardware false
  | lgTelevision | custom => simp [start]

end Handler

namespace Controller

/-! ## Calls -/

inductive Step
  | register (r : Registration)
  /-- The chain is asked for, by the caller or by a thread that was started for it. -/
  | build (hardware : Hardware)
  | dispatch (hardware : Hardware) (command : Command)
  | subscribe
  /-- The handlers that have put off a completion catch up. -/
  | completeDeferred

/-- The controller after a call, the answer to a call that has one, and what is seen. -/
def step (c : Controller) : Step → Controller × Option Bool × List Event
  | .register r => (c.register r, some true, [])
  | .build hardware =>
    let (c, chain, events) := c.setUp hardware
    (c, some chain.isComplete, events)
  | .dispatch hardware command =>
    let (c, isClaimed, events) := c.dispatch hardware command
    (c, some isClaimed, events)
  | .subscribe => (c.subscribe, none, [])
  | .completeDeferred =>
    let (c, events) := c.completeDeferred
    (c, none, events)

def run (c : Controller) : List Step → Controller × List Event
  | [] => (c, [])
  | s :: rest =>
    let (c, _, events) := c.step s
    let (c, later) := c.run rest
    (c, events ++ later)

end Controller

end CecGateway
