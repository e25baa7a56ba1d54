import CecGateway.Answer
import CecGateway.Text.Blank

/-!
# Configuration

Which adapter tool the gateway runs, the adapter it assumes, how long it waits for a reply, and how
it logs.
-/

namespace CecGateway

inductive LogFormat
  | json
  | compact
  deriving DecidableEq, Repr

namespace LogFormat

def name : LogFormat → String
  | json => "json"
  | compact => "compact"

def title : LogFormat → String
  | json => "Json"
  | compact => "Compact"

def ofName? (text : String) : Option LogFormat := [json, compact].find? (·.name = text)

/-- Reads a name without regard to the case of its letters. -/
def ofText? (text : String) : Option LogFormat := ofName? (text.map Char.toLower)

def ofJson? : Json → Option LogFormat
  | .str text => ofName? text
  | .obj [(text, .null)] => ofName? text
  | _ => none

theorem ofName?_name (f : LogFormat) : ofName? f.name = some f := by cases f <;> decide

end LogFormat

structure Config where
  adapterCommand : String := "/usr/bin/cec-adapter"
  defaultAdapter : String := "cec0"
  /-- Milliseconds. -/
  replyTimeout : UInt64 := 1000
  logFilter : String := "info"
  logFormat : LogFormat := .json
  deriving DecidableEq, Repr

inductive ConfigError
  | emptyAdapterCommand
  | emptyDefaultAdapter
  | zeroReplyTimeout
  deriving DecidableEq, Repr

def ConfigError.message : ConfigError → String
  | emptyAdapterCommand => "adapter_command must not be empty"
  | emptyDefaultAdapter => "default_adapter must not be empty"
  | zeroReplyTimeout => "reply_timeout_ms must be greater than zero"

namespace Config

def isBlank (text : String) : Bool := text.toList.all Text.isBlank

def validate (c : Config) : Except ConfigError Unit :=
  if isBlank c.adapterCommand then .error .emptyAdapterCommand
  else if isBlank c.defaultAdapter then .error .emptyDefaultAdapter
  else if c.replyTimeout = 0 then .error .zeroReplyTimeout
  else .ok ()

def fieldNames : List String :=
  ["adapter_command", "default_adapter", "reply_timeout_ms", "log_filter", "log_format"]

def text? (default : String) : Option Json → Option String
  | none => some default
  | some (.str s) => some s
  | _ => none

def milliseconds? (default : UInt64) : Option Json → Option UInt64
  | none => some default
  | some (.int n) => if 0 ≤ n ∧ n < UInt64.size then some n.toNat.toUInt64 else none
  | _ => none

def format? (default : LogFormat) : Option Json → Option LogFormat
  | none => some default
  | some v => LogFormat.ofJson? v

/-- Reads a configuration, in which every field has a default. -/
def ofJson? (v : Json) : Option Config := do
  let field ← v.fields? fieldNames
  let base : Config := {}
  return {
    adapterCommand := ← text? base.adapterCommand (field "adapter_command")
    defaultAdapter := ← text? base.defaultAdapter (field "default_adapter")
    replyTimeout := ← milliseconds? base.replyTimeout (field "reply_timeout_ms")
    logFilter := ← text? base.logFilter (field "log_filter")
    logFormat := ← format? base.logFormat (field "log_format") }

def toJson (c : Config) : Json :=
  .obj [("adapter_command", .str c.adapterCommand), ("default_adapter", .str c.defaultAdapter),
    ("reply_timeout_ms", .int c.replyTimeout.toNat), ("log_filter", .str c.logFilter),
    ("log_format", .str c.logFormat.name)]

end Config

end CecGateway
