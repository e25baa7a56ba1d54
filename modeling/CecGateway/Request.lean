import CecGateway.Json.Reader
import CecGateway.Payload
import CecGateway.Text.Blank

/-!
# Requests

A request is one line of JSON: an envelope with a method, parameters and an identifier that its
response carries back. The parameters are typed by the method.
-/

namespace CecGateway

structure Request where
  method : String
  params : Json := .null
  id : Option Json := none

/-- Why a line is not a request, or a request no command. -/
inductive RequestError
  | tooLarge (size : Nat)
  | empty
  | malformed
  | unknownMethod (method : String)
  | invalidParams (method : String)
  deriving DecidableEq, Repr

namespace Request

/-- No line of a request is longer, its end included. -/
def maxBytes : Nat := 65536

/-- Blank bytes at the end of a line do not belong to the request. -/
def isBlankByte (b : UInt8) : Bool := b = 32 || b = 9 || b = 10 || b = 12 || b = 13

def trimEnd (line : List UInt8) : List UInt8 := (line.reverse.dropWhile isBlankByte).reverse

/-! ## The envelope -/

structure Draft where
  method : Option String := none
  params : Option Json := none
  id : Option (Option Json) := none

def Draft.request? (d : Draft) : Option Request := do
  return ⟨← d.method, d.params.getD .null, d.id.join⟩

/-- Kept values stand in the envelope, one level below the top. -/
def keptValue (input : Json.Input) : Option (Json × Json.Input) :=
  Json.value (Json.maxDepth - 1) (Json.fuelFor input) input

/-- An identifier; `null` is none. -/
def identifier (input : Json.Input) : Option (Option Json × Json.Input) := do
  let (v, rest) ← keptValue input
  return (match v with | .null => none | v => some v, rest)

/-- Reads the value of a field into a draft. A field must not come twice; the value of an unknown
one is skipped. -/
def field (draft : Draft) (key : String) (input : Json.Input) : Option (Draft × Json.Input) :=
  match key with
  | "method" => do
    if draft.method.isSome then none
    let (method, rest) ← Json.string input
    return ({ draft with method := some method }, rest)
  | "params" => do
    if draft.params.isSome then none
    let (params, rest) ← keptValue input
    return ({ draft with params := some params }, rest)
  | "id" => do
    if draft.id.isSome then none
    let (id, rest) ← identifier input
    return ({ draft with id := some id }, rest)
  | _ => do return (draft, ← Json.skip input)

def envelopeFields : Nat → Draft → Json.Input → Option (Draft × Json.Input)
  | 0, _, _ => none
  | fuel + 1, draft, input => do
    let (key, rest) ← Json.string input
    let (draft, rest) ← field draft key (← Json.token ':' rest)
    match Json.token ',' rest with
    | some rest => envelopeFields fuel draft rest
    | none => do return (draft, ← Json.token '\x7d' rest)

/-- The items of an envelope written as an array, up to its closing bracket: the fields `names` in
this order, of which all after the method may be missing. -/
def envelopeItems : List String → Draft → Json.Input → Option (Draft × Json.Input)
  | [], draft, input => do return (draft, ← Json.token ']' input)
  | name :: names, draft, input =>
    match Json.token ']' input with
    | some rest => some (draft, rest)
    | none => do
      let input ← if name = "method" then some input else Json.token ',' input
      let (draft, rest) ← field draft name input
      envelopeItems names draft rest

def envelope (input : Json.Input) : Option (Draft × Json.Input) :=
  match Json.skipSpace input with
  | .char '\x7b' :: rest =>
    match Json.token '\x7d' rest with
    | some rest => some ({}, rest)
    | none => envelopeFields rest.length {} rest
  | .char '[' :: rest => envelopeItems ["method", "params", "id"] {} rest
  | _ => none

def ofDocument? (document : List UInt8) : Option Request := do
  let (draft, rest) ← envelope (Utf8.decode document)
  if (Json.skipSpace rest).isEmpty then draft.request? else none

/-- Reads one line. -/
def parse (line : List UInt8) : Except RequestError Request :=
  if maxBytes < line.length then .error (.tooLarge line.length)
  else if (trimEnd line).isEmpty then .error .empty
  else match ofDocument? (trimEnd line) with
    | some request => .ok request
    | none => .error .malformed

/-! ## Typed parameters -/

def kind (r : Request) : Except RequestError Kind :=
  let method := Text.trimmed r.method
  match Kind.ofName? method with
  | some kind => .ok kind
  | none => .error (.unknownMethod method)

def text? : Option Json → Option String
  | some (.str s) => some s
  | _ => none

/-- A text that may be missing or `null`. -/
def optionalText? : Option Json → Option (Option String)
  | none | some .null => some none
  | some (.str s) => some (some s)
  | _ => none

def timeout? : Option Json → Option UInt32
  | none => some defaultTimeout
  | some (.int n) => if 0 ≤ n ∧ n < UInt32.size then some n.toNat.toUInt32 else none
  | _ => none

def argument? (v : Json) : Option Argument := do
  let field ← v.fields? ["arg", "value"]
  return ⟨← text? (field "arg"), ← optionalText? (field "value")⟩

def arguments? : Option Json → Option (List Argument)
  | none => some []
  | some (.arr items) => items.mapM argument?
  | _ => none

def subCommand? (v : Json) : Option SubCommand := do
  let field ← v.fields? ["name", "args"]
  return ⟨← text? (field "name"), ← arguments? (field "args")⟩

def payload? (kind : Kind) (params : Json) : Option Payload :=
  match kind with
  | .listAdapters => some .listAdapters
  | .scan => do
    let field ← params.fields? ["adapter"]
    return .scan (← optionalText? (field "adapter"))
  | .sendCommand => do
    let field ← params.fields? ["adapter", "destAddress", "timeout", "command"]
    let adapter ← optionalText? (field "adapter")
    let destination ← text? (field "destAddress")
    let timeout ← timeout? (field "timeout")
    return .sendCommand adapter destination timeout (← subCommand? (← field "command"))
  | .getConfig => do
    let field ← params.fields? ["key", "adapter"]
    return .getConfig (← text? (field "key")) (← optionalText? (field "adapter"))
  | .setConfig => do
    let field ← params.fields? ["key", "value", "adapter"]
    let key ← text? (field "key")
    return .setConfig key (← text? (field "value")) (← optionalText? (field "adapter"))

/-- The command that a request asks for; no parameters are as good as empty ones. -/
def payload (r : Request) : Except RequestError Payload := do
  let kind ← r.kind
  let params := match r.params with
    | .null => .obj []
    | params => params
  match payload? kind params with
  | some payload => .ok payload
  | none => .error (.invalidParams kind.name)

end Request

namespace RequestError

def message? : RequestError → Option String
  | tooLarge size =>
    some ("request too large: " ++ Decimal.render size ++ " bytes exceeds " ++
      Decimal.render Request.maxBytes ++ " byte limit")
  | empty => some "malformed JSONL: empty request line"
  | malformed => none
  | unknownMethod method => some ("unknown method: " ++ method)
  | invalidParams _ => none

end RequestError

end CecGateway
