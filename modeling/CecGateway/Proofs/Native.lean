import CecGateway.Message

/-!
# The tool's limits

A message becomes a native command exactly if its name and all its parameters are within the limits,
and then the command has just that name and those parameters. Whatever is not within them fails for
a limit and for no other reason (`enforces_toNative`).
-/

namespace CecGateway

def IsWord (text : String) : Prop := ∀ c ∈ text.toList, NativeCommand.breaksWord c = false

def IsPrintable (text : String) : Prop := ∀ c ∈ text.toList, Text.isControl c = false

structure Parameter.Fits (p : Parameter) : Prop where
  size_name : p.name.utf8ByteSize ≤ NativeCommand.maxParameterNameBytes
  isWord_name : IsWord p.name
  size_value : p.value.utf8ByteSize ≤ NativeCommand.maxValueBytes
  isPrintable_value : IsPrintable p.value

structure NativeCommand.Fits (command : NativeCommand) : Prop where
  size_name : command.name.utf8ByteSize ≤ maxNameBytes
  isWord_name : IsWord command.name
  length_parameters : command.parameters.length ≤ maxParameters
  parameters : ∀ p ∈ command.parameters, p.Fits

theorem IsWord.isPrintable {text : String} (h : IsWord text) : IsPrintable text := by
  intro c hc
  have hword := h c hc
  simp only [NativeCommand.breaksWord, Bool.or_eq_false_iff] at hword
  exact hword.1.2

theorem IsWord.not_mem {text : String} (h : IsWord text) {c : Char}
    (hc : NativeCommand.breaksWord c = true) : c ∉ text.toList := by
  intro hmem
  have hword := h c hmem
  simp [hc] at hword

/-! ## Limits and nothing else -/

/-- This gives `a` within the limit, and is an exceeded limit otherwise. -/
def Enforces {α : Type} (limit : Prop) (x : Except Fault α) (a : α) : Prop :=
  (x = .ok a ∧ limit) ∨ (∃ field message, x = .error (.limitExceeded field message)) ∧ ¬limit

section Enforces

variable {α β : Type} {p q : Prop} {x : Except Fault α} {a b : α}

theorem Enforces.congr (h : Enforces p x a) (hiff : p ↔ q) : Enforces q x a := by
  rwa [Enforces, ← hiff]

theorem enforces_ite [Decidable p] (field message : String) (a : α) :
    Enforces (¬p) (if p then .error (.limitExceeded field message) else .ok a) a := by
  by_cases hp : p
  · exact .inr ⟨⟨field, message, if_pos hp⟩, not_not_intro hp⟩
  · exact .inl ⟨if_neg hp, hp⟩

theorem Enforces.bind {f : α → Except Fault β} {b : β} (hx : Enforces p x a)
    (hf : p → Enforces q (f a) b) : Enforces (p ∧ q) (x >>= f) b := by
  obtain ⟨rfl, hp⟩ | ⟨⟨field, message, rfl⟩, hp⟩ := hx
  · obtain ⟨hok, hq⟩ | ⟨herror, hq⟩ := hf hp
    · exact .inl ⟨hok, hp, hq⟩
    · exact .inr ⟨herror, fun h => hq h.2⟩
  · exact .inr ⟨⟨field, message, rfl⟩, fun h => hp h.1⟩

theorem Enforces.eq_ok_iff (h : Enforces p x a) : x = .ok b ↔ p ∧ a = b := by
  obtain ⟨rfl, hp⟩ | ⟨⟨field, message, rfl⟩, hp⟩ := h <;> simp [hp]

theorem Enforces.failure_eq (h : Enforces p x a) {fault : Fault} (hfault : x = .error fault) :
    fault.failure = .invalidParameters := by
  obtain ⟨rfl, -⟩ | ⟨⟨field, message, rfl⟩, -⟩ := h
  · contradiction
  · rw [← Except.error.inj hfault]
    rfl

end Enforces

namespace NativeCommand

theorem enforces_checkLength (field text : String) (limit : Nat) :
    Enforces (text.utf8ByteSize ≤ limit) (checkLength field text limit) () :=
  (enforces_ite _ _ ()).congr Nat.not_lt

theorem enforces_checkWord (field text : String) :
    Enforces (IsWord text) (checkWord field text) () :=
  (enforces_ite _ _ ()).congr (by simp [IsWord])

theorem enforces_checkPrintable (field text : String) :
    Enforces (IsPrintable text) (checkPrintable field text) () :=
  (enforces_ite _ _ ()).congr (by simp [IsPrintable])

theorem enforces_new (name : String) :
    Enforces (name.utf8ByteSize ≤ maxNameBytes ∧ IsWord name) (new name) { name } := by
  have hchecks : Enforces (name.utf8ByteSize ≤ maxNameBytes ∧ IsWord name ∧ True) (new name)
      { name } := by
    apply (enforces_checkLength "name" name maxNameBytes).bind
    intro _
    apply (enforces_checkWord "name" name).bind
    intro _
    exact .inl ⟨rfl, trivial⟩
  exact hchecks.congr (by rw [and_true])

/-! ## In place -/

/-- On this command, the call leads to `next` within the limit. Otherwise a limit is exceeded and
the command is left alone. -/
def Takes (limit : Prop) (call : InPlace Unit) (command next : NativeCommand) : Prop :=
  (call.run.run command = (.ok (), next) ∧ limit) ∨
    (∃ field message, call.run.run command = (.error (.limitExceeded field message), command)) ∧
      ¬limit

section Takes

variable {p q : Prop} {call : InPlace Unit} {command next : NativeCommand}

theorem Takes.congr (h : Takes p call command next) (hiff : p ↔ q) :
    Takes q call command next := by
  rwa [Takes, ← hiff]

theorem Takes.get {f : NativeCommand → InPlace Unit} (h : Takes p (f command) command next) :
    Takes p (get >>= f) command next := h

theorem run_check_bind (check : Except Fault Unit) (f : Unit → InPlace Unit)
    (command : NativeCommand) :
    ((liftM check : InPlace Unit) >>= f).run.run command = match check with
      | .ok () => (f ()).run.run command
      | .error fault => (.error fault, command) := by
  cases check <;> rfl

/-- A check that is not passed ends the call before it has changed anything. -/
theorem Takes.check {check : Except Fault Unit} {rest : Unit → InPlace Unit}
    (hcheck : Enforces p check ()) (hrest : Takes q (rest ()) command next) :
    Takes (p ∧ q) (liftM check >>= rest) command next := by
  unfold Takes
  rw [run_check_bind]
  obtain ⟨rfl, hp⟩ | ⟨⟨field, message, rfl⟩, hp⟩ := hcheck
  · exact hrest.congr (and_iff_right hp).symm
  · exact .inr ⟨⟨field, message, rfl⟩, fun h => hp h.1⟩

theorem fits_iff_checks {p : Parameter} :
    p.Fits ↔ p.name.utf8ByteSize ≤ maxParameterNameBytes ∧ IsWord p.name ∧
      p.value.utf8ByteSize ≤ maxValueBytes ∧ IsPrintable p.value ∧ True :=
  ⟨fun h => ⟨h.size_name, h.isWord_name, h.size_value, h.isPrintable_value, trivial⟩,
    fun ⟨hname, hword, hvalue, hprintable, _⟩ => ⟨hname, hword, hvalue, hprintable⟩⟩

theorem takes_append (command : NativeCommand) (p : Parameter) :
    Takes (command.parameters.length < maxParameters ∧ p.Fits) (append p.name p.value) command
      { command with parameters := command.parameters ++ [p] } := by
  apply Takes.get
  by_cases hfull : maxParameters ≤ command.parameters.length
  · rw [if_pos hfull]
    exact .inr ⟨⟨_, _, rfl⟩, fun h => Nat.not_lt.mpr hfull h.1⟩
  · rw [if_neg hfull, fits_iff_checks, and_iff_right (Nat.lt_of_not_le hfull)]
    apply Takes.check (enforces_checkLength "param name" p.name maxParameterNameBytes)
    apply Takes.check (enforces_checkWord "param name" p.name)
    apply Takes.check (enforces_checkLength p.name p.value maxValueBytes)
    apply Takes.check (enforces_checkPrintable p.name p.value)
    exact .inl ⟨rfl, trivial⟩

end Takes

/-- A parameter is taken or refused. It is refused for a limit, and then nothing has changed. -/
theorem offer_cases (command : NativeCommand) (p : Parameter) :
    (command.offer p = (.ok (), { command with parameters := command.parameters ++ [p] }) ∧
        command.parameters.length < maxParameters ∧ p.Fits) ∨
      (∃ field message, command.offer p = (.error (.limitExceeded field message), command)) ∧
        ¬(command.parameters.length < maxParameters ∧ p.Fits) :=
  takes_append command p

theorem enforces_push (command : NativeCommand) (p : Parameter) :
    Enforces (command.parameters.length < maxParameters ∧ p.Fits) (command.push p.name p.value)
      { command with parameters := command.parameters ++ [p] } := by
  obtain ⟨htaken, hfits⟩ | ⟨⟨field, message, hrefused⟩, hnot⟩ := command.offer_cases p
  · exact .inl ⟨by rw [push, htaken], hfits⟩
  · exact .inr ⟨⟨field, message, by rw [push, hrefused]⟩, hnot⟩

theorem enforces_pushAll (command : NativeCommand) (parameters : List Parameter)
    (hlength : command.parameters.length ≤ maxParameters) :
    Enforces (command.parameters.length + parameters.length ≤ maxParameters ∧
        ∀ p ∈ parameters, p.Fits)
      (parameters.foldlM (fun command p => command.push p.name p.value) command)
      { command with parameters := command.parameters ++ parameters } := by
  induction parameters generalizing command with
  | nil => exact .inl ⟨by simp [pure, Except.pure], by simpa using hlength⟩
  | cons p rest ih =>
      have hall : Enforces
          ((command.parameters.length < maxParameters ∧ p.Fits) ∧
            command.parameters.length + 1 + rest.length ≤ maxParameters ∧ ∀ p ∈ rest, p.Fits)
          ((p :: rest).foldlM (fun command p => command.push p.name p.value) command)
          { command with parameters := command.parameters ++ p :: rest } := by
        rw [List.foldlM_cons]
        apply (command.enforces_push p).bind
        rintro ⟨hfree, -⟩
        have hlength : (command.parameters ++ [p]).length ≤ maxParameters := by
          rw [List.length_append]
          exact hfree
        simpa using ih ⟨command.name, command.parameters ++ [p]⟩ hlength
      refine hall.congr ?_
      rw [List.forall_mem_cons, List.length_cons]
      constructor
      · rintro ⟨⟨-, hp⟩, hle, hrest⟩
        exact ⟨by omega, hp, hrest⟩
      · rintro ⟨hle, hp, hrest⟩
        exact ⟨⟨by omega, hp⟩, by omega, hrest⟩

end NativeCommand

namespace Message

theorem commandName_of_ne {m : Message} (hkind : m.kind ≠ .sendCommand) :
    m.commandName = m.kind.name := by
  unfold commandName
  split
  · contradiction
  · rfl

theorem commandName_of_eq {m : Message} (hkind : m.kind = .sendCommand) :
    m.commandName = (Parameter.lookup "name" m.parameters).getD "" := by
  rw [commandName, hkind]
  rfl

/-- A message becomes the command of its name with its parameters, or exceeds a limit. -/
theorem enforces_toNative (m : Message) :
    Enforces (⟨m.commandName, m.parameters⟩ : NativeCommand).Fits m.toNative
      ⟨m.commandName, m.parameters⟩ := by
  have hbuilt : Enforces
      ((m.commandName.utf8ByteSize ≤ NativeCommand.maxNameBytes ∧ IsWord m.commandName) ∧
        m.parameters.length ≤ NativeCommand.maxParameters ∧ ∀ p ∈ m.parameters, p.Fits)
      m.toNative ⟨m.commandName, m.parameters⟩ := by
    apply (NativeCommand.enforces_new m.commandName).bind
    intro _
    simpa using NativeCommand.enforces_pushAll ⟨m.commandName, []⟩ m.parameters (Nat.zero_le _)
  refine hbuilt.congr ⟨?_, ?_⟩
  · rintro ⟨⟨hsize, hword⟩, hlength, hparameters⟩
    exact ⟨hsize, hword, hlength, hparameters⟩
  · rintro ⟨hsize, hword, hlength, hparameters⟩
    exact ⟨⟨hsize, hword⟩, hlength, hparameters⟩

theorem toNative_eq_ok {m : Message} {command : NativeCommand} :
    m.toNative = .ok command ↔
      command.Fits ∧ command.name = m.commandName ∧ command.parameters = m.parameters := by
  rw [m.enforces_toNative.eq_ok_iff]
  obtain ⟨name, parameters⟩ := command
  constructor
  · rintro ⟨hfits, heq⟩
    obtain ⟨rfl, rfl⟩ := NativeCommand.mk.inj heq
    exact ⟨hfits, rfl, rfl⟩
  · rintro ⟨hfits, rfl, rfl⟩
    exact ⟨hfits, rfl⟩

end Message

end CecGateway
