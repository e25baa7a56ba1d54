import CecGateway.Proofs.Parameters
import CecGateway.Proofs.Text.Decimal
import CecGateway.Tool

/-!
# Deadlines

A sent command carries the time that its client gives it as a text among its parameters, and the
tool reads it back from there. It finds this text and no other, since no argument and no key is
called like it, so each command has the time it was meant to have
(`deadlines_are_as_requested`).
-/

namespace CecGateway

namespace Tool

variable {tool : Tool} {command : NativeCommand}

theorem deadline_of_none (hnone : command.param? "timeout" = none) :
    tool.deadline command = tool.replyTimeout := by
  rw [deadline, hnone]
  rfl

theorem deadline_of_render {n : Nat} (htext : command.param? "timeout" = some (Decimal.render n))
    (hword : n < UInt64.size) :
    tool.deadline command = if 0 < n then n else tool.replyTimeout := by
  rw [deadline, htext, Option.bind_some, Decimal.render, String.toList_ofList,
    Decimal.readBelow?_digits hword]

end Tool

namespace Message

variable {defaultAdapter : String}

/-- The time of a sent command comes before its arguments, whatever these are called. -/
theorem lookup_timeout_sendCommand (adapter : Option String) (destination : String)
    (timeout : UInt32) (c : SubCommand) :
    Parameter.lookup "timeout"
      (parametersOf defaultAdapter (.sendCommand adapter destination timeout c)) =
        some (Decimal.render timeout.toNat) := rfl

theorem timeout_not_mem_keys : "timeout" ∉ readableKeys ∧ "timeout" ∉ writableKeys := by decide

theorem lookup_timeout_eq_none {payload : Payload} (hkind : payload.kind ≠ .sendCommand)
    (hkey : ¬payload.NamesUnknownKey) :
    Parameter.lookup "timeout" (parametersOf defaultAdapter payload) = none := by
  obtain ⟨hreadable, hwritable⟩ := timeout_not_mem_keys
  apply Parameter.lookup_eq_none
  cases payload with
  | listAdapters => simp [parametersOf]
  | scan adapter => simp [parametersOf]
  | sendCommand adapter destination timeout c => contradiction
  | getConfig key adapter =>
      have hother : "timeout" ≠ key := fun h => hreadable (h ▸ not_not.mp hkey)
      simpa [parametersOf] using hother
  | setConfig key value adapter =>
      have hother : "timeout" ≠ key := fun h => hwritable (h ▸ not_not.mp hkey)
      simpa [parametersOf] using hother

end Message

/-- The milliseconds that a payload asks for. To ask for none is not to ask. -/
def Payload.requestedTime? : Payload → Option Nat
  | .sendCommand _ _ timeout _ => if 0 < timeout.toNat then some timeout.toNat else none
  | .listAdapters | .scan _ | .getConfig .. | .setConfig .. => none

theorem Payload.requestedTime?_of_ne {payload : Payload} (hkind : payload.kind ≠ .sendCommand) :
    payload.requestedTime? = none := by
  cases payload <;> first | rfl | contradiction

/-- Whatever tool the worker hands a valid payload's command to, its deadline is the time that the
payload asks for, and the tool's own if it asks for none. -/
theorem deadlines_are_as_requested (tool : Tool) (g : Generic) (seq : Nat) (payload : Payload)
    (hvalid : g.validate payload = .ok ()) :
    ∃ command, Queue.commandFor none (g.messageOf seq payload) = .ok command ∧
      tool.deadline command = payload.requestedTime?.getD tool.replyTimeout := by
  obtain ⟨command, hcommand⟩ := Generic.exists_native hvalid seq
  obtain ⟨-, -, hparameters⟩ := Message.toNative_eq_ok.mp hcommand
  refine ⟨command, hcommand, ?_⟩
  have htext : command.param? "timeout" =
      Parameter.lookup "timeout" (Message.parametersOf g.defaultAdapter payload) :=
    congrArg (Parameter.lookup "timeout") hparameters
  by_cases hkind : payload.kind = .sendCommand
  · cases payload with
    | sendCommand adapter destination timeout c =>
        rw [Message.lookup_timeout_sendCommand] at htext
        have hword : timeout.toNat < UInt64.size :=
          Nat.lt_trans timeout.toNat_lt (by decide)
        rw [Tool.deadline_of_render htext hword, Payload.requestedTime?]
        split <;> rfl
    | listAdapters | scan | getConfig | setConfig => contradiction
  · obtain ⟨-, hcontent, -⟩ := Generic.validate_eq_ok.mp hvalid
    obtain ⟨-, -, -, hkey⟩ := Generic.checkContent_eq_ok.mp hcontent
    rw [Message.lookup_timeout_eq_none hkind hkey] at htext
    rw [Tool.deadline_of_none htext, Payload.requestedTime?_of_ne hkind]
    rfl

/-- The greatest time there is, none at all, and values that only look like a time. -/
theorem long_and_missing_deadlines :
    let tool : Tool := { executable := "cec-tool", replyTimeout := 1500 }
    let g : Generic :=
      { defaultAdapter := "timeout=7", registry := ⟨[], [{ name := "TV", address := "0" }]⟩ }
    let c : SubCommand := ⟨"vendor-commands", [⟨"vendor-command", some "timeout=9"⟩]⟩
    ∀ entry ∈ [(Payload.sendCommand none "0" 4294967295 c, 4294967295),
        (Payload.sendCommand none "0" 0 c, 1500), (Payload.setConfig "osd" "timeout" none, 1500)],
      g.validate entry.1 = .ok () ∧
        ∃ command, Queue.commandFor none (g.messageOf 3 entry.1) = .ok command ∧
          tool.deadline command = entry.2 := by
  intro tool g c entry hentry
  have hvalid : g.validate entry.1 = .ok () := by
    revert entry
    decide
  have htime : entry.1.requestedTime?.getD tool.replyTimeout = entry.2 := by
    revert entry
    decide
  obtain ⟨command, hcommand, hdeadline⟩ := deadlines_are_as_requested tool g 3 entry.1 hvalid
  exact ⟨hvalid, command, hcommand, hdeadline.trans htime⟩

end CecGateway
