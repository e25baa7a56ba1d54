import CecGateway.Native

/-!
# The hardware

The adapter tool as the gateway sees it: opened once, then asked to execute one native command
after another.
-/

namespace CecGateway

/-- What the tool answers when it does not fail. -/
inductive Response
  | lines (lines : List String)
  | notImplemented
  deriving DecidableEq, Repr

/-- How opening ends, and the answer to a command after the commands executed before it. -/
structure Hardware where
  opening : Except Fault Unit := .ok ()
  answer : List NativeCommand → NativeCommand → Except Fault Response

inductive Call
  | opened
  | executed (command : NativeCommand)
  | closed
  deriving DecidableEq, Repr

namespace Hardware

/-- Hardware that answers by the name of the command alone. -/
def scripted (opening : Except Fault Unit) (answers : String → Except Fault Response) : Hardware :=
  ⟨opening, fun _ command => answers command.name⟩

end Hardware

end CecGateway
