import CecGateway.Proofs.Acceptance

/-!
# Parameters are read back

The arguments of a sub-command stand in one list with the parameters that every sent command has,
and a name is looked up from the front. No argument is called like one of those parameters, except
for the `name` that `system-information` may ask for: it stands behind the name of the sub-command,
which is what is found instead (`arguments_read_back`).
-/

namespace CecGateway

namespace Parameter

variable {p : Parameter} {parameters : List Parameter} {name : String}

theorem lookup_append (name : String) (parameters more : List Parameter) :
    lookup name (parameters ++ more) = (lookup name parameters).or (lookup name more) := by
  rw [lookup, List.find?_append, Option.map_or]
  rfl

theorem lookup_eq_none (hname : name ∉ parameters.map (·.name)) :
    lookup name parameters = none := by
  rw [lookup, Option.map_eq_none_iff, List.find?_eq_none]
  intro p hp hsame
  exact hname (List.mem_map.mpr ⟨p, hp, of_decide_eq_true hsame⟩)

theorem lookup_of_mem (hnodup : (parameters.map (·.name)).Nodup) (hp : p ∈ parameters) :
    lookup p.name parameters = some p.value := by
  induction parameters with
  | nil => contradiction
  | cons q rest ih =>
      obtain ⟨hfresh, hrest⟩ := List.nodup_cons.mp hnodup
      obtain rfl | hp := List.mem_cons.mp hp
      · simp [lookup]
      · have hother : q.name ≠ p.name := fun hsame =>
          hfresh (List.mem_map.mpr ⟨p, hp, hsame.symm⟩)
        rw [← ih hrest hp, lookup, lookup, List.find?_cons_of_neg (by simpa using hother)]

end Parameter

/-- The parameters of every sent command that come before its name. -/
def Message.leadingNames : List String := ["adapter", "destAddress", "timeout"]

namespace Contract

/-- No argument is called like a parameter that comes before it, but one that
`system-information` takes. -/
theorem argumentNames_of_documented : ∀ entry ∈ documented, ∀ name ∈ entry.2.argumentNames,
    name ∉ Message.leadingNames ∧
      (name = "name" → entry = ("system-information", someOf systemInformationNames)) := by
  decide

end Contract

/-- The arguments of a sub-command have names of their own, but for a `name` without a value. -/
structure SubCommand.HasFreshArguments (c : SubCommand) : Prop where
  nodup : (c.arguments.map (·.name)).Nodup
  fresh : ∀ a ∈ c.arguments, a.name ∉ Message.leadingNames
  of_name : ∀ a ∈ c.arguments, a.name = "name" → c.name = "system-information" ∧ a.text = ""

theorem Contract.Admits.hasFreshArguments {contract : Contract} {c : SubCommand}
    (h : contract.Admits c.arguments) (hentry : (c.name, contract) ∈ documented) :
    c.HasFreshArguments := by
  have hnames (a : Argument) (ha : a ∈ c.arguments) :=
    argumentNames_of_documented _ hentry a.name (h.name_mem a ha)
  refine ⟨h.nodup, fun a ha => (hnames a ha).1, fun a ha hname => ?_⟩
  obtain ⟨hcommand, rfl⟩ := Prod.mk.inj ((hnames a ha).2 hname)
  exact ⟨hcommand, (h.2.1 a ha).2⟩

theorem Generic.hasFreshArguments_of_validate {g : Generic} {adapter : Option String}
    {destination : String} {timeout : UInt32} {c : SubCommand}
    (hvalid : g.validate (.sendCommand adapter destination timeout c) = .ok ()) :
    c.HasFreshArguments := by
  obtain ⟨-, hcontent, -⟩ := validate_eq_ok.mp hvalid
  obtain ⟨-, hcommand, hkept, -⟩ := checkContent_eq_ok.mp hcontent
  obtain ⟨contract, hentry, hadmits⟩ := Message.exists_admitting hcommand hkept
  exact hadmits.hasFreshArguments hentry

namespace Message

variable {defaultAdapter destination : String} {adapter : Option String} {timeout : UInt32}
  {c : SubCommand}

theorem parameterNames_sendCommand :
    (parametersOf defaultAdapter (.sendCommand adapter destination timeout c)).map (·.name) =
      leadingNames ++ "name" :: c.arguments.map (·.name) := by
  simp [parametersOf, leadingNames, Function.comp_def]

theorem nodup_erase_name (hfresh : c.HasFreshArguments) :
    (leadingNames ++ c.arguments.map (·.name)).Nodup := by
  refine List.nodup_append.mpr ⟨by decide, hfresh.nodup, fun name hname other hother => ?_⟩
  obtain ⟨a, ha, rfl⟩ := List.mem_map.mp hother
  rintro rfl
  exact hfresh.fresh a ha hname

theorem nodup_parameterNames_iff (hfresh : c.HasFreshArguments) :
    ((parametersOf defaultAdapter (.sendCommand adapter destination timeout c)).map
      (·.name)).Nodup ↔ "name" ∉ c.arguments.map (·.name) := by
  have hmiddle : "name" ∉ leadingNames := by decide
  rw [parameterNames_sendCommand, List.nodup_middle, List.nodup_cons, List.mem_append, not_or]
  exact ⟨fun h => h.1.2, fun h => ⟨⟨hmiddle, h⟩, nodup_erase_name hfresh⟩⟩

theorem lookup_argument (hfresh : c.HasFreshArguments) {a : Argument} (ha : a ∈ c.arguments)
    (hname : a.name ≠ "name") :
    Parameter.lookup a.name
      (parametersOf defaultAdapter (.sendCommand adapter destination timeout c)) =
        some a.text := by
  have hfixed : a.name ∉ leadingNames ++ ["name"] := by
    rw [List.mem_append, List.mem_singleton, not_or]
    exact ⟨hfresh.fresh a ha, hname⟩
  let arguments : List Parameter := c.arguments.map fun a => ⟨a.name, a.text⟩
  have hnodup : (arguments.map (·.name)).Nodup := by
    simpa [arguments, Function.comp_def] using hfresh.nodup
  have hfound : Parameter.lookup a.name arguments = some a.text :=
    Parameter.lookup_of_mem (p := ⟨a.name, a.text⟩) hnodup (List.mem_map.mpr ⟨a, ha, rfl⟩)
  rw [parametersOf, Parameter.lookup_append, Parameter.lookup_eq_none hfixed]
  exact hfound

end Message

/-- Of a valid sent command, the native command gives back by name all that it was built from: the
adapter, the destination, the time, the sub-command and each argument, but for an argument `name`.
Names occur once, but for that one, which only `system-information` takes and which has no value. -/
theorem arguments_read_back (g : Generic) (seq : Nat) (adapter : Option String)
    (destination : String) (timeout : UInt32) (c : SubCommand)
    (hvalid : g.validate (.sendCommand adapter destination timeout c) = .ok ()) :
    ∃ command,
      (g.messageOf seq (.sendCommand adapter destination timeout c)).toNative = .ok command ∧
      ((command.parameters.map (·.name)).Nodup ↔ "name" ∉ c.arguments.map (·.name)) ∧
      ((command.parameters.map (·.name)).erase "name").Nodup ∧
      command.param? "adapter" = some (adapter.getD g.defaultAdapter) ∧
      command.param? "destAddress" = some destination ∧
      command.param? "timeout" = some (Decimal.render timeout.toNat) ∧
      command.param? "name" = some c.name ∧
      ∀ a ∈ c.arguments, a.name ≠ "name" ∧ command.param? a.name = some a.text ∨
        a.name = "name" ∧ c.name = "system-information" ∧ a.text = "" := by
  obtain ⟨command, hcommand⟩ := Generic.exists_native hvalid seq
  obtain ⟨-, -, hparameters⟩ := Message.toNative_eq_ok.mp hcommand
  have hfresh := Generic.hasFreshArguments_of_validate hvalid
  have hlist : command.parameters = Message.parametersOf g.defaultAdapter
      (.sendCommand adapter destination timeout c) := hparameters
  refine ⟨command, hcommand, ?_, ?_, ?_⟩
  · rw [hlist]
    exact Message.nodup_parameterNames_iff hfresh
  · rw [hlist, Message.parameterNames_sendCommand]
    exact Message.nodup_erase_name hfresh
  · simp only [NativeCommand.param?, hlist]
    refine ⟨rfl, rfl, rfl, rfl, fun a ha => ?_⟩
    by_cases hname : a.name = "name"
    · exact .inr ⟨hname, hfresh.of_name a ha hname⟩
    · exact .inl ⟨hname, Message.lookup_argument hfresh ha hname⟩

/-- A text that looks like a parameter is read back as it is. -/
theorem display_text_reads_back :
    let g : Generic :=
      { defaultAdapter := "cec0", registry := ⟨[], [{ name := "TV", address := "0" }]⟩ }
    let c : SubCommand := ⟨"osd-display", [⟨"display-text", some "name=timeout"⟩]⟩
    g.validate (.sendCommand none "0" 250 c) = .ok () ∧
      ∃ command, (g.messageOf 7 (.sendCommand none "0" 250 c)).toNative = .ok command ∧
        (command.parameters.map (·.name)).Nodup ∧ command.param? "timeout" = some "250" ∧
        command.param? "display-text" = some "name=timeout" := by
  intro g c
  have hvalid : g.validate (.sendCommand none "0" 250 c) = .ok () := by decide
  obtain ⟨command, hcommand, hnodup, -, -, -, htimeout, -, harguments⟩ :=
    arguments_read_back g 7 none "0" 250 c hvalid
  obtain ⟨-, htext⟩ | ⟨hname, -⟩ := harguments _ (List.mem_singleton_self _)
  · exact ⟨hvalid, command, hcommand, hnodup.mpr (by decide), htimeout, htext⟩
  · exact absurd hname (by decide)

/-- Who asks for the name of a device cannot look the argument up. -/
theorem name_argument_is_hidden :
    let g : Generic :=
      { defaultAdapter := "cec0", registry := ⟨[], [{ name := "TV", address := "0" }]⟩ }
    let c : SubCommand := ⟨"system-information", [⟨"name", none⟩]⟩
    g.validate (.sendCommand none "0" 1000 c) = .ok () ∧
      ∃ command, (g.messageOf 1 (.sendCommand none "0" 1000 c)).toNative = .ok command ∧
        ¬(command.parameters.map (·.name)).Nodup ∧
        ∀ a ∈ c.arguments, command.param? a.name ≠ some a.text := by
  intro g c
  let command : NativeCommand := ⟨"system-information",
    [⟨"adapter", "cec0"⟩, ⟨"destAddress", "0"⟩, ⟨"timeout", "1000"⟩,
      ⟨"name", "system-information"⟩, ⟨"name", ""⟩]⟩
  exact ⟨by decide, command, by decide +kernel, by decide, by decide⟩

end CecGateway
