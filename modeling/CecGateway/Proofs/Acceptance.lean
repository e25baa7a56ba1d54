import CecGateway.Proofs.RequestLine
import Mathlib.Data.List.Nodup
import Mathlib.Data.String.Basic

/-!
# What the generic handler accepts

A payload may be refused for its adapter, its destination, its sub-command, its arguments or its
key. One that names only what is known can still fail at the tool's limits, but only for the texts
that its client is free to choose: all names are from tables whose entries are short words, and a
sub-command never has as many arguments as a native command can take.
-/

namespace CecGateway

/-! ## Texts within the limits -/

def IsName (text : String) : Prop := text.utf8ByteSize ≤ 32 ∧ IsWord text

/-- A text that may stand as a value. -/
def IsFit (text : String) : Prop := text.utf8ByteSize ≤ 64 ∧ IsPrintable text

instance (text : String) : Decidable (IsWord text) :=
  decidable_of_iff (text.toList.any NativeCommand.breaksWord = false) (by simp [IsWord])

instance (text : String) : Decidable (IsPrintable text) :=
  decidable_of_iff (text.toList.any Text.isControl = false) (by simp [IsPrintable])

instance (text : String) : Decidable (IsName text) :=
  inferInstanceAs (Decidable (_ ∧ _))

instance (text : String) : Decidable (IsFit text) :=
  inferInstanceAs (Decidable (_ ∧ _))

theorem IsName.isFit {text : String} (h : IsName text) : IsFit text :=
  ⟨Nat.le_trans h.1 (by decide), h.2.isPrintable⟩

theorem isFit_empty : IsFit "" := by decide

theorem utf8Len_le (text : List Char) : String.utf8Len text ≤ 4 * text.length := by
  induction text with
  | nil => simp
  | cons c rest ih =>
      have hsize := c.utf8Size_le_four
      rw [String.utf8Len_cons, List.length_cons]
      omega

theorem isControl_of_isDigit {c : Char} (h : c.isDigit = true) : Text.isControl c = false := by
  simp only [Char.isDigit, Bool.and_eq_true, decide_eq_true_eq, ge_iff_le,
    UInt32.le_iff_toNat_le] at h
  have hlow : '0'.val.toNat = 48 := rfl
  have hhigh : '9'.val.toNat = 57 := rfl
  have htoNat : c.toNat = c.val.toNat := rfl
  simp only [Text.isControl, Bool.or_eq_false_iff, Bool.and_eq_false_iff, decide_eq_false_iff_not]
  omega

theorem isFit_render {n : Nat} (hbound : n < 10 ^ 16) : IsFit (Decimal.render n) := by
  refine ⟨?_, fun c hc => ?_⟩
  · have hlength : (Nat.toDigits 10 n).length ≤ 16 :=
      (Nat.length_toDigits_le_iff (by decide) (by decide)).mpr hbound
    have hle := utf8Len_le (Nat.toDigits 10 n)
    rw [Decimal.render, Decimal.digits, String.utf8ByteSize_ofList]
    omega
  · rw [Decimal.render, String.toList_ofList] at hc
    exact isControl_of_isDigit (Nat.isDigit_of_mem_toDigits (by decide) (by decide) hc)

namespace NativeCommand

/-- The limits: 32 bytes for a name, which is a single word, 16 parameters, and 64 bytes without
control characters for a value. -/
theorem fits_iff {command : NativeCommand} :
    command.Fits ↔ IsName command.name ∧ command.parameters.length ≤ 16 ∧
      ∀ p ∈ command.parameters, IsName p.name ∧ IsFit p.value := by
  constructor
  · intro h
    refine ⟨⟨h.size_name, h.isWord_name⟩, h.length_parameters, fun p hp => ?_⟩
    have hfits := h.parameters p hp
    exact ⟨⟨hfits.size_name, hfits.isWord_name⟩, hfits.size_value, hfits.isPrintable_value⟩
  · rintro ⟨hname, hlength, hparameters⟩
    refine ⟨hname.1, hname.2, hlength, fun p hp => ?_⟩
    obtain ⟨hname, hvalue⟩ := hparameters p hp
    exact ⟨hname.1, hname.2, hvalue.1, hvalue.2⟩

/-- Once the names are fine and few, all depends on the values. -/
theorem fits_iff_isFit {command : NativeCommand} (hname : IsName command.name)
    (hnames : ∀ p ∈ command.parameters, IsName p.name)
    (hlength : command.parameters.length ≤ maxParameters) :
    command.Fits ↔ ∀ p ∈ command.parameters, IsFit p.value := by
  rw [fits_iff]
  constructor
  · exact fun hfits p hp => (hfits.2.2 p hp).2
  · exact fun hvalues => ⟨hname, hlength, fun p hp => ⟨hnames p hp, hvalues p hp⟩⟩

end NativeCommand

/-! ## Tables -/

namespace Contract

/-- The sub-commands, each with what it takes. -/
def documented : List (String × Contract) :=
  [("report-power-status", exactly "pwr-state" (some ["", "on", "standby"])),
    ("report-audio-status", exactly "audio-status" (some [""])),
    ("set-volume", exactly "volume" (some ["up", "down", "mute", "unmute"])),
    ("osd-display", exactly "display-text" none),
    ("active", noArgument),
    ("one-touch-play", noArgument),
    ("system-information",
      someOf ["vendor-id", "version", "name", "language", "is-active"]),
    ("vendor-commands", exactly "vendor-command" none)]

theorem ofSubCommand?_eq_some_iff {name : String} {contract : Contract} :
    ofSubCommand? name = some contract ↔ (name, contract) ∈ documented := by
  unfold ofSubCommand?
  split <;> simp_all [documented, systemInformationNames, eq_comm]

theorem ofSubCommand?_eq_none_iff {name : String} :
    ofSubCommand? name = none ↔ name ∉ documented.map (·.1) := by
  rw [Option.eq_none_iff_forall_ne_some]
  simp [ofSubCommand?_eq_some_iff]

def argumentNames : Contract → List String
  | noArgument => []
  | exactly name _ => [name]
  | someOf names => names

theorem Admits.name_mem {contract : Contract} {arguments : List Argument}
    (h : contract.Admits arguments) : ∀ a ∈ arguments, a.name ∈ contract.argumentNames := by
  cases contract with
  | noArgument =>
      obtain rfl : arguments = [] := h
      simp
  | exactly name allowed =>
      obtain ⟨a, rfl, hname, -⟩ := h
      simp [argumentNames, hname]
  | someOf names =>
      intro a ha
      exact (h.2.1 a ha).1

theorem Admits.nodup {contract : Contract} {arguments : List Argument}
    (h : contract.Admits arguments) : (arguments.map (·.name)).Nodup := by
  cases contract with
  | noArgument =>
      obtain rfl : arguments = [] := h
      exact .nil
  | exactly name allowed =>
      obtain ⟨a, rfl, -⟩ := h
      exact List.nodup_singleton a.name
  | someOf names => exact h.2.2

theorem Admits.length_le {contract : Contract} {arguments : List Argument}
    (h : contract.Admits arguments) : arguments.length ≤ contract.argumentNames.length := by
  have hsubset : arguments.map (·.name) ⊆ contract.argumentNames :=
    List.forall_mem_map.mpr h.name_mem
  simpa using h.nodup.length_le_of_subset hsubset

theorem isName_of_documented :
    ∀ entry ∈ documented, IsName entry.1 ∧ entry.2.argumentNames.length ≤ 12 ∧
      ∀ name ∈ entry.2.argumentNames, IsName name := by
  decide

end Contract

theorem isName_of_readable : ∀ key ∈ readableKeys, IsName key := by decide

theorem isName_of_writable : ∀ key ∈ writableKeys, IsName key := by decide

theorem Kind.isName (k : Kind) : IsName k.name := by cases k <;> decide

/-! ## What may be wrong with a payload -/

namespace Payload

/-- The texts of a payload that no table restricts. -/
def freeTexts (defaultAdapter : String) : Payload → List String
  | listAdapters => []
  | scan adapter => [adapter.getD defaultAdapter]
  | sendCommand adapter destination _ command =>
    adapter.getD defaultAdapter :: destination :: command.arguments.map (·.text)
  | getConfig _ adapter => [adapter.getD defaultAdapter]
  | setConfig _ value adapter => [value, adapter.getD defaultAdapter]

def NamesUnknownAdapter (r : Registry) (p : Payload) : Prop :=
  ∃ name ∈ p.adapter?, name ∉ r.adapters

def NamesUnknownDestination (r : Registry) : Payload → Prop
  | sendCommand _ destination _ _ => ∀ d ∈ r.devices, d.address ≠ destination
  | _ => False

def NamesUnknownSubCommand : Payload → Prop
  | sendCommand _ _ _ command => command.name ∉ Contract.documented.map (·.1)
  | _ => False

def BreaksContract : Payload → Prop
  | sendCommand _ _ _ command =>
    ∃ entry ∈ Contract.documented, entry.1 = command.name ∧ ¬entry.2.Admits command.arguments
  | _ => False

def NamesUnknownKey : Payload → Prop
  | getConfig key _ => key ∉ readableKeys
  | setConfig key _ _ => key ∉ writableKeys
  | _ => False

def HoldsUnfitText (defaultAdapter : String) (p : Payload) : Prop :=
  ∃ text ∈ p.freeTexts defaultAdapter,
    64 < text.utf8ByteSize ∨ ∃ c ∈ text.toList, Text.isControl c = true

instance (r : Registry) (p : Payload) : Decidable (p.NamesUnknownAdapter r) :=
  inferInstanceAs (Decidable (∃ name ∈ p.adapter?, name ∉ r.adapters))

instance (r : Registry) : DecidablePred (NamesUnknownDestination r)
  | sendCommand _ destination _ _ =>
    inferInstanceAs (Decidable (∀ d ∈ r.devices, d.address ≠ destination))
  | listAdapters | scan _ | getConfig .. | setConfig .. => inferInstanceAs (Decidable False)

instance : DecidablePred NamesUnknownSubCommand
  | sendCommand _ _ _ command =>
    inferInstanceAs (Decidable (command.name ∉ Contract.documented.map (·.1)))
  | listAdapters | scan _ | getConfig .. | setConfig .. => inferInstanceAs (Decidable False)

instance : DecidablePred BreaksContract
  | sendCommand _ _ _ command =>
    inferInstanceAs (Decidable (∃ entry ∈ Contract.documented,
      entry.1 = command.name ∧ ¬entry.2.Admits command.arguments))
  | listAdapters | scan _ | getConfig .. | setConfig .. => inferInstanceAs (Decidable False)

instance : DecidablePred NamesUnknownKey
  | getConfig key _ => inferInstanceAs (Decidable (key ∉ readableKeys))
  | setConfig key _ _ => inferInstanceAs (Decidable (key ∉ writableKeys))
  | listAdapters | scan _ | sendCommand .. => inferInstanceAs (Decidable False)

instance (defaultAdapter : String) (p : Payload) : Decidable (p.HoldsUnfitText defaultAdapter) :=
  inferInstanceAs (Decidable (∃ text ∈ p.freeTexts defaultAdapter, _ ∨ ∃ c ∈ text.toList, _))

theorem holdsUnfitText_iff {defaultAdapter : String} {p : Payload} :
    p.HoldsUnfitText defaultAdapter ↔ ¬∀ text ∈ p.freeTexts defaultAdapter, IsFit text := by
  simp only [HoldsUnfitText, IsFit, IsPrintable, not_forall, not_and_or, Nat.not_le,
    Bool.not_eq_false, exists_prop]

end Payload

/-! ## The stages of validation -/

theorem SubCommand.check_eq (command : SubCommand) :
    command.check =
      if command.name ∉ Contract.documented.map (·.1) then .error .invalidCommand
      else if ∃ entry ∈ Contract.documented,
          entry.1 = command.name ∧ ¬entry.2.Admits command.arguments then
        .error .invalidParameters
      else .ok () := by
  unfold SubCommand.check
  cases hcontract : Contract.ofSubCommand? command.name with
  | none => rw [if_pos (Contract.ofSubCommand?_eq_none_iff.mp hcontract)]
  | some contract =>
      have hentry := Contract.ofSubCommand?_eq_some_iff.mp hcontract
      have hmem : command.name ∈ Contract.documented.map (·.1) :=
        List.mem_map_of_mem hentry
      have hbroken : (∃ entry ∈ Contract.documented,
          entry.1 = command.name ∧ ¬entry.2.Admits command.arguments) ↔
            ¬contract.Admits command.arguments := by
        constructor
        · rintro ⟨⟨name, other⟩, hother, rfl, hrefused⟩
          rw [← Contract.ofSubCommand?_eq_some_iff, hcontract, Option.some_inj] at hother
          exact hother ▸ hrefused
        · exact fun hrefused => ⟨_, hentry, rfl, hrefused⟩
      rw [if_neg (not_not.mpr hmem)]
      simp only [hbroken, contract.admits_iff]
      exact (ite_not _ _ _).symm

namespace Generic

theorem checkAdapter_eq (r : Registry) (payload : Payload) :
    checkAdapter r payload =
      if payload.NamesUnknownAdapter r then .error .invalidAdapter else .ok () := by
  by_cases hunknown : payload.NamesUnknownAdapter r
  · obtain ⟨name, hadapter, hname⟩ := hunknown
    rw [if_pos ⟨name, hadapter, hname⟩, checkAdapter, hadapter]
    simp [Registry.hasAdapter, hname]
  · rw [if_neg hunknown, checkAdapter]
    split
    · rename_i name hadapter
      have hname : name ∈ r.adapters := by
        by_contra hname
        exact hunknown ⟨name, hadapter, hname⟩
      simp [Registry.hasAdapter, hname]
    · rfl

theorem checkKey_eq (allowed : List String) (key : String) :
    checkKey allowed key = if key ∉ allowed then .error .invalidParameters else .ok () := by
  rw [checkKey, ite_not]

theorem checkContent_eq (r : Registry) (payload : Payload) :
    checkContent r payload =
      if payload.NamesUnknownDestination r then .error .invalidDestination
      else if payload.NamesUnknownSubCommand then .error .invalidCommand
      else if payload.BreaksContract ∨ payload.NamesUnknownKey then .error .invalidParameters
      else .ok () := by
  cases payload with
  | listAdapters | scan =>
      simp [checkContent, Payload.NamesUnknownDestination, Payload.NamesUnknownSubCommand,
        Payload.BreaksContract, Payload.NamesUnknownKey]
  | sendCommand adapter destination timeout command =>
      have hunknown : (r.device? destination).isNone = true ↔
          ∀ d ∈ r.devices, d.address ≠ destination := by
        simp [Registry.device?]
      rw [checkContent, SubCommand.check_eq]
      exact if_congr hunknown rfl (if_congr Iff.rfl rfl (if_congr (or_false _).to_iff.symm rfl rfl))
  | getConfig | setConfig =>
      simp [checkContent, checkKey_eq, Payload.NamesUnknownDestination,
        Payload.NamesUnknownSubCommand, Payload.BreaksContract, Payload.NamesUnknownKey]

theorem checkContent_eq_ok {r : Registry} {payload : Payload} :
    checkContent r payload = .ok () ↔
      ¬payload.NamesUnknownDestination r ∧ ¬payload.NamesUnknownSubCommand ∧
        ¬payload.BreaksContract ∧ ¬payload.NamesUnknownKey := by
  rw [checkContent_eq]
  split_ifs with hdestination hcommand hbroken
  · simp [hdestination]
  · simp [hcommand]
  · simp [← not_or, hbroken]
  · simp [← not_or, hdestination, hcommand, hbroken]

end Generic

/-! ## The limits of a message whose names are known -/

namespace Message

variable {payload : Payload} {defaultAdapter : String} {seq : Nat}

theorem exists_admitting {command : SubCommand} {adapter : Option String} {destination : String}
    {timeout : UInt32}
    (hknown : ¬(Payload.sendCommand adapter destination timeout command).NamesUnknownSubCommand)
    (hkept : ¬(Payload.sendCommand adapter destination timeout command).BreaksContract) :
    ∃ contract, (command.name, contract) ∈ Contract.documented ∧
      contract.Admits command.arguments := by
  obtain ⟨⟨name, contract⟩, hentry, hname⟩ := List.mem_map.mp (not_not.mp hknown)
  obtain rfl : name = command.name := hname
  refine ⟨contract, hentry, ?_⟩
  by_contra hrefused
  exact hkept ⟨(command.name, contract), hentry, rfl, hrefused⟩

theorem isName_commandName (hknown : ¬payload.NamesUnknownSubCommand)
    (hkept : ¬payload.BreaksContract) :
    IsName (ofPayload seq defaultAdapter payload).commandName := by
  cases payload with
  | sendCommand adapter destination timeout command =>
      obtain ⟨contract, hentry, -⟩ := exists_admitting hknown hkept
      rw [commandName_sendCommand]
      exact (Contract.isName_of_documented _ hentry).1
  | listAdapters | scan | getConfig | setConfig =>
      rw [commandName_of_kind (by simp [Payload.kind])]
      exact Kind.isName _

theorem isName_parameters (hknown : ¬payload.NamesUnknownSubCommand)
    (hkept : ¬payload.BreaksContract) (hkey : ¬payload.NamesUnknownKey) :
    ∀ p ∈ parametersOf defaultAdapter payload, IsName p.name := by
  have hadapter : IsName "adapter" := by decide
  cases payload with
  | listAdapters => simp [parametersOf]
  | scan adapter => simpa [parametersOf] using hadapter
  | sendCommand adapter destination timeout command =>
      obtain ⟨contract, hentry, hadmits⟩ := exists_admitting hknown hkept
      have harguments : ∀ a ∈ command.arguments, IsName a.name := by
        intro a ha
        exact (Contract.isName_of_documented _ hentry).2.2 _ (hadmits.name_mem a ha)
      have hrest : IsName "destAddress" ∧ IsName "timeout" ∧ IsName "name" := by decide
      simpa [parametersOf, hadapter, hrest] using harguments
  | getConfig key adapter =>
      have hname := isName_of_readable key (not_not.mp hkey)
      simp [parametersOf, hname, hadapter]
  | setConfig key value adapter =>
      have hname := isName_of_writable key (not_not.mp hkey)
      simp [parametersOf, hname, hadapter]

theorem length_parametersOf_le (hknown : ¬payload.NamesUnknownSubCommand)
    (hkept : ¬payload.BreaksContract) :
    (parametersOf defaultAdapter payload).length ≤ NativeCommand.maxParameters := by
  cases payload with
  | sendCommand adapter destination timeout command =>
      obtain ⟨contract, hentry, hadmits⟩ := exists_admitting hknown hkept
      have hfew : contract.argumentNames.length ≤ 12 :=
        (Contract.isName_of_documented _ hentry).2.1
      have hlength := hadmits.length_le
      simp only [parametersOf, NativeCommand.maxParameters, List.length_append, List.length_cons,
        List.length_nil, List.length_map]
      omega
  | listAdapters | scan | getConfig | setConfig =>
      simp [parametersOf, NativeCommand.maxParameters]

/-- Of the values, only the free texts can be unfit. -/
theorem isFit_values_iff (hknown : ¬payload.NamesUnknownSubCommand)
    (hkept : ¬payload.BreaksContract) :
    (∀ p ∈ parametersOf defaultAdapter payload, IsFit p.value) ↔
      ∀ text ∈ payload.freeTexts defaultAdapter, IsFit text := by
  cases payload with
  | listAdapters => simp [parametersOf, Payload.freeTexts]
  | scan adapter => simp [parametersOf, Payload.freeTexts]
  | sendCommand adapter destination timeout command =>
      obtain ⟨contract, hentry, -⟩ := exists_admitting hknown hkept
      have hname := (Contract.isName_of_documented _ hentry).1.isFit
      have htimeout : IsFit (Decimal.render timeout.toNat) :=
        isFit_render (Nat.lt_of_lt_of_le timeout.toNat_lt (by decide))
      simp [parametersOf, Payload.freeTexts, hname, htimeout]
  | getConfig key adapter => simp [parametersOf, Payload.freeTexts, isFit_empty]
  | setConfig key value adapter => simp [parametersOf, Payload.freeTexts]

theorem toNative_isOk_iff (hknown : ¬payload.NamesUnknownSubCommand)
    (hkept : ¬payload.BreaksContract) (hkey : ¬payload.NamesUnknownKey) :
    (∃ command, (ofPayload seq defaultAdapter payload).toNative = .ok command) ↔
      ∀ text ∈ payload.freeTexts defaultAdapter, IsFit text := by
  rw [← isFit_values_iff hknown hkept]
  let command : NativeCommand :=
    ⟨(ofPayload seq defaultAdapter payload).commandName, parametersOf defaultAdapter payload⟩
  have hfits : command.Fits ↔ ∀ p ∈ command.parameters, IsFit p.value :=
    NativeCommand.fits_iff_isFit (isName_commandName hknown hkept)
      (isName_parameters hknown hkept hkey) (length_parametersOf_le hknown hkept)
  rw [← hfits]
  constructor
  · rintro ⟨⟨name, parameters⟩, hnative⟩
    obtain ⟨hfits, rfl, rfl⟩ := toNative_eq_ok.mp hnative
    exact hfits
  · exact fun hfits => ⟨_, toNative_eq_ok.mpr ⟨hfits, rfl, rfl⟩⟩

end Message

theorem Generic.checkLimits_eq {payload : Payload} (defaultAdapter : String)
    (hknown : ¬payload.NamesUnknownSubCommand) (hkept : ¬payload.BreaksContract)
    (hkey : ¬payload.NamesUnknownKey) :
    checkLimits defaultAdapter payload =
      if payload.HoldsUnfitText defaultAdapter then .error .invalidParameters else .ok () := by
  have hnative : (∃ command, (Message.ofPayload 0 defaultAdapter payload).toNative = .ok command) ↔
      ∀ text ∈ payload.freeTexts defaultAdapter, IsFit text :=
    Message.toNative_isOk_iff hknown hkept hkey
  unfold checkLimits
  cases hcommand : (Message.ofPayload 0 defaultAdapter payload).toNative with
  | ok command =>
      have hfit := hnative.mp ⟨command, hcommand⟩
      rw [if_neg (fun hunfit => Payload.holdsUnfitText_iff.mp hunfit hfit)]
  | error fault =>
      have hunfit : payload.HoldsUnfitText defaultAdapter := by
        rw [Payload.holdsUnfitText_iff]
        intro hfit
        obtain ⟨command, hok⟩ := hnative.mpr hfit
        simp [hcommand] at hok
      rw [if_pos hunfit]
      exact congrArg Except.error ((Message.enforces_toNative _).failure_eq hcommand)

/-- Validation ends with the first of these that applies, whatever the registry, the default adapter
and the payload are. -/
theorem validate_eq_first_objection (g : Generic) (payload : Payload) :
    g.validate payload =
      if payload.NamesUnknownAdapter g.registry then .error .invalidAdapter
      else if payload.NamesUnknownDestination g.registry then .error .invalidDestination
      else if payload.NamesUnknownSubCommand then .error .invalidCommand
      else if payload.BreaksContract ∨ payload.NamesUnknownKey then .error .invalidParameters
      else if payload.HoldsUnfitText g.defaultAdapter then .error .invalidParameters
      else .ok () := by
  rw [Generic.validate, Generic.checkAdapter_eq, Generic.checkContent_eq]
  by_cases hadapter : payload.NamesUnknownAdapter g.registry
  · simp only [if_pos hadapter]
    rfl
  by_cases hdestination : payload.NamesUnknownDestination g.registry
  · simp only [if_neg hadapter, if_pos hdestination]
    rfl
  by_cases hcommand : payload.NamesUnknownSubCommand
  · simp only [if_neg hadapter, if_neg hdestination, if_pos hcommand]
    rfl
  by_cases hbroken : payload.BreaksContract ∨ payload.NamesUnknownKey
  · simp only [if_neg hadapter, if_neg hdestination, if_neg hcommand, if_pos hbroken]
    rfl
  -- what is left are the limits, and of these the free texts
  simp only [if_neg hadapter, if_neg hdestination, if_neg hcommand, if_neg hbroken]
  rw [not_or] at hbroken
  exact Generic.checkLimits_eq g.defaultAdapter hcommand hbroken.1 hbroken.2

end CecGateway
