import CecGateway.Native
import CecGateway.Payload

/-!
# Messages

A command on its way through the queue: a sequence number, a kind and parameters not yet held to
the tool's limits.
-/

namespace CecGateway

structure Message where
  seq : Nat
  kind : Kind
  parameters : List Parameter := []
  deriving DecidableEq, Repr

namespace Message

def param? (m : Message) (name : String) : Option String := Parameter.lookup name m.parameters

/-- Parameters of a payload in the order in which the tool gets them. The default adapter stands in
where none is named. -/
def parametersOf (defaultAdapter : String) : Payload → List Parameter
  | .listAdapters => []
  | .scan adapter => [⟨"adapter", adapter.getD defaultAdapter⟩]
  | .sendCommand adapter destination timeout command =>
    [⟨"adapter", adapter.getD defaultAdapter⟩, ⟨"destAddress", destination⟩,
      ⟨"timeout", Decimal.render timeout.toNat⟩, ⟨"name", command.name⟩] ++
      command.arguments.map fun a => ⟨a.name, a.text⟩
  | .getConfig key adapter => [⟨key, ""⟩, ⟨"adapter", adapter.getD defaultAdapter⟩]
  | .setConfig key value adapter => [⟨key, value⟩, ⟨"adapter", adapter.getD defaultAdapter⟩]

def ofPayload (seq : Nat) (defaultAdapter : String) (payload : Payload) : Message :=
  ⟨seq, payload.kind, parametersOf defaultAdapter payload⟩

/-- A sent command has the name of its `name` parameter, every other kind its own. -/
def commandName (m : Message) : String :=
  match m.kind with
  | .sendCommand => (m.param? "name").getD ""
  | kind => kind.name

def toNative (m : Message) : Except Fault NativeCommand := do
  m.parameters.foldlM (fun command p => command.push p.name p.value)
    (← NativeCommand.new m.commandName)

end Message

end CecGateway
