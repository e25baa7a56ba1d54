import CecGateway.Failure
import CecGateway.Payload

/-!
# Contracts of sub-commands and keys

Which arguments each sub-command takes, and which configuration keys can be read and written.
-/

namespace CecGateway

inductive Contract
  | noArgument
  /-- Exactly one argument of this name, with one of the allowed values if there is a list. -/
  | exactly (name : String) (allowed : Option (List String))
  /-- One or more distinct arguments of these names, without values. -/
  | someOf (names : List String)
  deriving DecidableEq, Repr

namespace Contract

def systemInformationNames : List String :=
  ["vendor-id", "version", "name", "language", "is-active"]

def ofSubCommand? : String → Option Contract
  | "report-power-status" => some (exactly "pwr-state" (some ["", "on", "standby"]))
  | "report-audio-status" => some (exactly "audio-status" (some [""]))
  | "set-volume" => some (exactly "volume" (some ["up", "down", "mute", "unmute"]))
  | "osd-display" => some (exactly "display-text" none)
  | "vendor-commands" => some (exactly "vendor-command" none)
  | "active" => some noArgument
  | "one-touch-play" => some noArgument
  | "system-information" => some (someOf systemInformationNames)
  | _ => none

def Admits : Contract → List Argument → Prop
  | noArgument, arguments => arguments = []
  | exactly name allowed, arguments =>
    ∃ a, arguments = [a] ∧ a.name = name ∧ ∀ values, allowed = some values → a.text ∈ values
  | someOf names, arguments =>
    arguments ≠ [] ∧ (∀ a ∈ arguments, a.name ∈ names ∧ a.text = "") ∧
      (arguments.map (·.name)).Nodup

def admits : Contract → List Argument → Bool
  | noArgument, arguments => arguments.isEmpty
  | exactly name allowed, arguments =>
    match arguments with
    | [a] => a.name = name && allowed.all (·.contains a.text)
    | _ => false
  | someOf names, arguments =>
    !arguments.isEmpty && arguments.all (fun a => names.contains a.name && a.text = "") &&
      decide (arguments.map (·.name)).Nodup

theorem admits_iff (c : Contract) (arguments : List Argument) :
    c.admits arguments ↔ c.Admits arguments := by
  cases c with
  | noArgument => simp [admits, Admits]
  | exactly name allowed =>
    match arguments with
    | [] => simp [admits, Admits]
    | [a] => cases allowed <;> simp [admits, Admits]
    | _ :: _ :: _ => simp [admits, Admits]
  | someOf names => simp [admits, Admits, and_assoc]

instance (c : Contract) (arguments : List Argument) : Decidable (c.Admits arguments) :=
  decidable_of_iff _ (c.admits_iff arguments)

end Contract

def SubCommand.check (command : SubCommand) : Except Failure Unit :=
  match Contract.ofSubCommand? command.name with
  | none => .error .invalidCommand
  | some contract =>
    if contract.admits command.arguments then .ok () else .error .invalidParameters

def readableKeys : List String :=
  ["vendorId", "version", "osd", "language", "powerState", "physicalAddress", "logicalAddress"]

def writableKeys : List String := ["vendorId", "osd", "deviceType"]

def checkKey (allowed : List String) (key : String) : Except Failure Unit :=
  if key ∈ allowed then .ok () else .error .invalidParameters

end CecGateway
