import CecGateway.Proofs.Parameters
import Mathlib.Data.List.Induction

/-!
# What can be built

A native command is made from a name and then changed in place, a parameter at a time, and whoever
builds it may go on with it after a parameter has been refused. Whatever is offered to it in
whatever order, it stays within the limits, and every command within the limits can be built. A
message becomes the command with its name and its parameters, or exceeds a limit
(`limits_are_exact`).
-/

namespace CecGateway

namespace NativeCommand

/-! ## All that can be built -/

/-- A new command, or what is left of one after it has been offered a parameter. -/
inductive IsBuilt : NativeCommand → Prop
  | new {name : String} {command : NativeCommand} (h : new name = .ok command) : IsBuilt command
  | offer {command : NativeCommand} (h : IsBuilt command) (p : Parameter) :
      IsBuilt (command.offer p).2

theorem fits_concat {name : String} {parameters : List Parameter} {p : Parameter} :
    (⟨name, parameters ++ [p]⟩ : NativeCommand).Fits ↔
      (⟨name, parameters⟩ : NativeCommand).Fits ∧ parameters.length < maxParameters ∧ p.Fits := by
  constructor
  · intro h
    obtain ⟨hparameters, hp⟩ := List.forall_mem_append.mp h.parameters
    have hfree : parameters.length + 1 ≤ maxParameters := by simpa using h.length_parameters
    exact ⟨⟨h.size_name, h.isWord_name, Nat.le_of_lt hfree, hparameters⟩, hfree,
      hp p (List.mem_singleton_self p)⟩
  · rintro ⟨h, hfree, hp⟩
    have hlength : (parameters ++ [p]).length ≤ maxParameters := by
      rw [List.length_append]
      exact hfree
    exact ⟨h.size_name, h.isWord_name, hlength,
      List.forall_mem_append.mpr ⟨h.parameters, by simpa using hp⟩⟩

theorem Fits.new {name : String} {command : NativeCommand} (h : new name = .ok command) :
    command.Fits := by
  obtain ⟨⟨hsize, hword⟩, rfl⟩ := (enforces_new name).eq_ok_iff.mp h
  exact ⟨hsize, hword, Nat.zero_le _, by simp⟩

theorem Fits.offer {command : NativeCommand} (h : command.Fits) (p : Parameter) :
    (command.offer p).2.Fits := by
  obtain ⟨htaken, hp⟩ | ⟨⟨field, message, hrefused⟩, -⟩ := command.offer_cases p
  · rw [htaken]
    exact fits_concat.mpr ⟨h, hp⟩
  · rwa [hrefused]

theorem Fits.isBuilt {name : String} {parameters : List Parameter}
    (h : (⟨name, parameters⟩ : NativeCommand).Fits) :
    (⟨name, parameters⟩ : NativeCommand).IsBuilt := by
  -- the last parameter is offered last
  induction parameters using List.reverseRecOn with
  | nil => exact .new ((enforces_new name).eq_ok_iff.mpr ⟨⟨h.size_name, h.isWord_name⟩, rfl⟩)
  | append_singleton parameters p ih =>
      obtain ⟨hbefore, hp⟩ := fits_concat.mp h
      have hbuilt := (ih hbefore).offer p
      obtain ⟨htaken, -⟩ | ⟨-, hrefused⟩ := offer_cases ⟨name, parameters⟩ p
      · rwa [htaken] at hbuilt
      · exact absurd hp hrefused

theorem isBuilt_iff_fits {command : NativeCommand} : command.IsBuilt ↔ command.Fits := by
  constructor
  · intro h
    induction h with
    | new h => exact .new h
    | offer _ p ih => exact ih.offer p
  · exact Fits.isBuilt

end NativeCommand

/-! ## Messages -/

namespace Message

/-- What a message is called: like its kind, but for a sent command, which has the value of its
first parameter `name`, and no name at all without one. -/
inductive IsCalled (m : Message) : String → Prop
  | kind (hkind : m.kind ≠ .sendCommand) : IsCalled m m.kind.name
  | parameter {name : String} {before after : List Parameter} (hkind : m.kind = .sendCommand)
      (hparameters : m.parameters = before ++ ⟨"name", name⟩ :: after)
      (hbefore : ∀ p ∈ before, p.name ≠ "name") : IsCalled m name
  | nothing (hkind : m.kind = .sendCommand) (hnone : ∀ p ∈ m.parameters, p.name ≠ "name") :
      IsCalled m ""

theorem isCalled_iff {m : Message} {name : String} : m.IsCalled name ↔ name = m.commandName := by
  constructor
  · intro h
    cases h with
    | kind hkind => exact (commandName_of_ne hkind).symm
    | @parameter _ before _ hkind hparameters hbefore =>
        have hskip : "name" ∉ before.map (·.name) := by simpa using hbefore
        rw [commandName_of_eq hkind, hparameters, Parameter.lookup_append,
          Parameter.lookup_eq_none hskip]
        rfl
    | nothing hkind hnone =>
        have hskip : "name" ∉ m.parameters.map (·.name) := by simpa using hnone
        rw [commandName_of_eq hkind, Parameter.lookup_eq_none hskip]
        rfl
  · rintro rfl
    by_cases hkind : m.kind = .sendCommand
    · rw [commandName_of_eq hkind, Parameter.lookup]
      cases hfind : m.parameters.find? (·.name = "name") with
      | none => exact .nothing hkind (by simpa using hfind)
      | some p =>
          obtain ⟨hname, before, after, hparameters, hbefore⟩ :=
            List.find?_eq_some_iff_append.mp hfind
          have hp : p = ⟨"name", p.value⟩ := by rw [← of_decide_eq_true hname]
          rw [hp] at hparameters
          exact .parameter hkind hparameters fun p hp => by simpa using hbefore p hp
    · rw [commandName_of_ne hkind]
      exact .kind hkind

end Message

/-- What can be built by offering parameters, some of which may be refused, is what is within the
limits. An offer is taken, or it exceeds a limit and changes nothing; and a message becomes the
command of its name with its parameters, or exceeds a limit. -/
theorem limits_are_exact :
    (∀ command : NativeCommand, command.IsBuilt ↔ command.Fits) ∧
      (∀ command : NativeCommand, command.Fits ↔
        IsName command.name ∧ command.parameters.length ≤ 16 ∧
          ∀ p ∈ command.parameters, IsName p.name ∧ IsFit p.value) ∧
      (∀ (command : NativeCommand) (p : Parameter),
        (command.offer p = (.ok (), { command with parameters := command.parameters ++ [p] }) ∧
            command.parameters.length < 16 ∧ p.Fits) ∨
          (∃ field message, command.offer p = (.error (.limitExceeded field message), command)) ∧
            ¬(command.parameters.length < 16 ∧ p.Fits)) ∧
      ∀ m : Message, ∃ name, (∀ other, m.IsCalled other ↔ other = name) ∧
        ((m.toNative = .ok ⟨name, m.parameters⟩ ∧ (⟨name, m.parameters⟩ : NativeCommand).Fits) ∨
          (∃ field message, m.toNative = .error (.limitExceeded field message)) ∧
            ¬(⟨name, m.parameters⟩ : NativeCommand).Fits) := by
  refine ⟨fun _ => NativeCommand.isBuilt_iff_fits, fun _ => NativeCommand.fits_iff,
    NativeCommand.offer_cases, fun m => ?_⟩
  exact ⟨m.commandName, fun _ => Message.isCalled_iff, m.enforces_toNative⟩

/-- Bytes are counted, not characters. -/
example :
    let command : NativeCommand := ⟨"osd-display", [⟨"name", "osd-display"⟩]⟩
    (command.offer ⟨"€€€€€€€€€€€", "on"⟩).2 = command := by
  decide

end CecGateway
