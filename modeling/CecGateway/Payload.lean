/-!
# Commands

The five kinds of command and what each asks for.
-/

namespace CecGateway

inductive Kind
  | listAdapters
  | scan
  | sendCommand
  | getConfig
  | setConfig
  deriving DecidableEq, Repr

namespace Kind

def all : List Kind := [listAdapters, scan, sendCommand, getConfig, setConfig]

def name : Kind → String
  | listAdapters => "listAdapters"
  | scan => "scan"
  | sendCommand => "sendCommand"
  | getConfig => "getConfig"
  | setConfig => "setConfig"

def ofName? (name : String) : Option Kind := all.find? (·.name = name)

theorem ofName?_name (k : Kind) : ofName? k.name = some k := by cases k <;> decide

end Kind

/-- An argument of a sub-command; a missing value is not the same text as an empty one, but means
the same. -/
structure Argument where
  name : String
  value : Option String := none
  deriving DecidableEq, Repr

def Argument.text (a : Argument) : String := a.value.getD ""

structure SubCommand where
  name : String
  arguments : List Argument := []
  deriving DecidableEq, Repr

/-- Milliseconds that a sent command may take when the client does not say. -/
def defaultTimeout : UInt32 := 1000

inductive Payload
  | listAdapters
  | scan (adapter : Option String)
  | sendCommand (adapter : Option String) (destination : String) (timeout : UInt32)
      (command : SubCommand)
  | getConfig (key : String) (adapter : Option String)
  | setConfig (key value : String) (adapter : Option String)
  deriving DecidableEq, Repr

namespace Payload

def kind : Payload → Kind
  | listAdapters => .listAdapters
  | scan _ => .scan
  | sendCommand .. => .sendCommand
  | getConfig .. => .getConfig
  | setConfig .. => .setConfig

def adapter? : Payload → Option String
  | listAdapters => none
  | scan adapter => adapter
  | sendCommand adapter _ _ _ => adapter
  | getConfig _ adapter => adapter
  | setConfig _ _ adapter => adapter

def destination? : Payload → Option String
  | sendCommand _ destination _ _ => some destination
  | _ => none

end Payload

/-- A payload with the ticket of whoever waits for its result. -/
structure Command where
  ticket : Nat
  payload : Payload
  deriving DecidableEq, Repr

end CecGateway
