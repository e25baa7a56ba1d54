import CecGateway.Hardware
import CecGateway.Result

/-!
# Events

What can be seen of the gateway at work, in the order in which it happens.
-/

namespace CecGateway

inductive Event
  | call (call : Call)
  /-- An observer, by the order of subscription, is told the devices of a scan. -/
  | scanned (observer : Nat) (devices : List Device)
  | completed (ticket : Nat) (result : Result)
  /-- A command is addressed to a television by LG. -/
  | lgAddressed (destination subCommand : String)
  /-- The factory of the registration at this place is run. -/
  | built (place : Nat)
  /-- The handler at this place of the chain is offered a payload; `seen` is the record it finds
  for the destination. -/
  | offered (place : Nat) (payload : Payload) (seen : Option Device)

namespace Event

def completions (events : List Event) : List (Nat × Result) :=
  events.filterMap fun
    | .completed ticket result => some (ticket, result)
    | _ => none

@[simp]
theorem completions_nil : completions [] = [] := rfl

@[simp]
theorem completions_append (events later : List Event) :
    completions (events ++ later) = completions events ++ completions later := by
  simp [completions]

@[simp]
theorem completions_completed (ticket : Nat) (result : Result) :
    completions [.completed ticket result] = [(ticket, result)] := rfl

@[simp]
theorem completions_built (place : Nat) (events : List Event) :
    completions (.built place :: events) = completions events := rfl

@[simp]
theorem completions_offered (place : Nat) (payload : Payload) (seen : Option Device)
    (events : List Event) :
    completions (.offered place payload seen :: events) = completions events := rfl

@[simp]
theorem completions_map_call (calls : List Call) : completions (calls.map .call) = [] := by
  simp [completions]

@[simp]
theorem completions_map_executed (commands : List NativeCommand) :
    completions (commands.map fun command => .call (.executed command)) = [] := by
  simp [completions]

@[simp]
theorem completions_map_scanned (observers : List Nat) (devices : List Device) :
    completions (observers.map (.scanned · devices)) = [] := by
  simp [completions]

end Event

end CecGateway
