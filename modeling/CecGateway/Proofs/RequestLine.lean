import CecGateway.Generic
import CecGateway.Proofs.Native
import CecGateway.Proofs.Text.Decimal
import Mathlib.Data.List.Basic

/-!
# A request line says what is requested

A request line can be taken apart again: at its blanks, then at the only equals sign of each part,
and then by undoing the escapes. So no text of a payload, whatever it holds, passes for another
payload (`request_line_determines_payload`).
-/

namespace CecGateway

namespace NativeCommand

/-! ## Taking a line apart -/

def unescape : List Char → List Char
  | '%' :: '2' :: '0' :: rest => ' ' :: unescape rest
  | '%' :: '3' :: 'D' :: rest => '=' :: unescape rest
  | '%' :: '2' :: '5' :: rest => '%' :: unescape rest
  | c :: rest => c :: unescape rest
  | [] => []

def readParameter? (part : List Char) : Option Parameter :=
  match part.splitOn '=' with
  | [name, value] => some ⟨.ofList name, .ofList (unescape value)⟩
  | _ => none

def readRequest? (line : List Char) : Option NativeCommand :=
  match line.splitOn ' ' with
  | name :: parts => (parts.mapM readParameter?).map fun parameters => ⟨.ofList name, parameters⟩
  | [] => none

theorem unescape_escape (c : Char) (rest : List Char) :
    unescape (escape c ++ rest) = c :: unescape rest := by
  unfold escape
  by_cases hblank : c = ' '
  · simp [hblank, unescape]
  by_cases hequals : c = '='
  · simp [hequals, unescape]
  by_cases hpercent : c = '%'
  · simp [hpercent, unescape]
  rw [if_neg hblank, if_neg hequals, if_neg hpercent, List.singleton_append]
  exact unescape.eq_4 c rest (by simp [hpercent]) (by simp [hpercent]) (by simp [hpercent])

theorem unescape_flatMap_escape (text : List Char) : unescape (text.flatMap escape) = text := by
  induction text with
  | nil => rfl
  | cons c rest ih => rw [List.flatMap_cons, unescape_escape, ih]

/-- An escape is written with these characters; any other character stands for itself. -/
theorem mem_escape {c d : Char} (hmem : d ∈ escape c) :
    d ∈ ['%', '2', '0', '3', 'D', '5'] ∨ d = c ∧ c ≠ ' ' ∧ c ≠ '=' := by
  unfold escape at hmem
  by_cases hblank : c = ' '
  · rw [if_pos hblank] at hmem
    have hsubset : ['%', '2', '0'] ⊆ ['%', '2', '0', '3', 'D', '5'] := by simp
    exact .inl (hsubset hmem)
  by_cases hequals : c = '='
  · rw [if_neg hblank, if_pos hequals] at hmem
    have hsubset : ['%', '3', 'D'] ⊆ ['%', '2', '0', '3', 'D', '5'] := by simp
    exact .inl (hsubset hmem)
  by_cases hpercent : c = '%'
  · rw [if_neg hblank, if_neg hequals, if_pos hpercent] at hmem
    have hsubset : ['%', '2', '5'] ⊆ ['%', '2', '0', '3', 'D', '5'] := by simp
    exact .inl (hsubset hmem)
  rw [if_neg hblank, if_neg hequals, if_neg hpercent] at hmem
  exact .inr ⟨List.mem_singleton.mp hmem, hblank, hequals⟩

theorem blank_not_mem_flatMap_escape (text : List Char) : ' ' ∉ text.flatMap escape := by
  rw [List.mem_flatMap]
  rintro ⟨c, -, hmem⟩
  obtain hescape | ⟨heq, hblank, -⟩ := mem_escape hmem
  · exact absurd hescape (by decide)
  · exact hblank heq.symm

theorem equals_not_mem_flatMap_escape (text : List Char) : '=' ∉ text.flatMap escape := by
  rw [List.mem_flatMap]
  rintro ⟨c, -, hmem⟩
  obtain hescape | ⟨heq, -, hequals⟩ := mem_escape hmem
  · exact absurd hescape (by decide)
  · exact hequals heq.symm

theorem isControl_of_mem_flatMap_escape {text : String} (htext : IsPrintable text) :
    ∀ c ∈ text.toList.flatMap escape, Text.isControl c = false := by
  intro d hmem
  obtain ⟨c, hc, hmem⟩ := List.mem_flatMap.mp hmem
  obtain hescape | ⟨rfl, -⟩ := mem_escape hmem
  · have hall : ['%', '2', '0', '3', 'D', '5'].all (!Text.isControl ·) = true := by decide
    simpa using List.all_eq_true.mp hall d hescape
  · exact htext d hc

def parameterPart (p : Parameter) : List Char :=
  p.name.toList ++ '=' :: p.value.toList.flatMap escape

theorem splitOn_parameterPart {p : Parameter} (hp : IsWord p.name) :
    (parameterPart p).splitOn '=' = [p.name.toList, p.value.toList.flatMap escape] := by
  have hname : '=' ∉ p.name.toList := hp.not_mem (by decide)
  have hvalue := equals_not_mem_flatMap_escape p.value.toList
  rw [parameterPart, List.splitOn_append_cons_self_of_not_mem hname,
    List.splitOn_eq_singleton hvalue]

theorem readParameter?_parameterPart {p : Parameter} (hp : IsWord p.name) :
    readParameter? (parameterPart p) = some p := by
  rw [readParameter?, splitOn_parameterPart hp]
  simp [unescape_flatMap_escape]

theorem blank_not_mem_parameterPart {p : Parameter} (hp : IsWord p.name) :
    ' ' ∉ parameterPart p := by
  have hname : ' ' ∉ p.name.toList := hp.not_mem (by decide)
  have hvalue := blank_not_mem_flatMap_escape p.value.toList
  rw [parameterPart, List.mem_append, List.mem_cons]
  rintro (hmem | hmem | hmem)
  · exact hname hmem
  · contradiction
  · exact hvalue hmem

theorem intercalate_parts (name : List Char) (parameters : List Parameter) :
    [' '].intercalate (name :: parameters.map parameterPart) =
      name ++ parameters.flatMap parameterChars := by
  induction parameters generalizing name with
  | nil => simp
  | cons p rest ih =>
      rw [List.map_cons, List.intercalate_cons_cons, ih, List.flatMap_cons]
      simp [parameterChars, parameterPart]

theorem splitOn_requestChars {command : NativeCommand} (hcommand : command.Fits) :
    command.requestChars.splitOn ' ' =
      command.name.toList :: command.parameters.map parameterPart := by
  have hname : ' ' ∉ command.name.toList := hcommand.isWord_name.not_mem (by decide)
  rw [requestChars, ← intercalate_parts, List.splitOn_intercalate _ _ (List.cons_ne_nil _ _)]
  refine List.forall_mem_cons.mpr ⟨hname, List.forall_mem_map.mpr fun p hp => ?_⟩
  exact blank_not_mem_parameterPart (hcommand.parameters p hp).isWord_name

theorem mapM_readParameter? {parameters : List Parameter}
    (hparameters : ∀ p ∈ parameters, IsWord p.name) :
    (parameters.map parameterPart).mapM readParameter? = some parameters := by
  induction parameters with
  | nil => rfl
  | cons p rest ih =>
      obtain ⟨hp, hrest⟩ := List.forall_mem_cons.mp hparameters
      simp [readParameter?_parameterPart hp, ih hrest]

theorem readRequest?_requestChars {command : NativeCommand} (hcommand : command.Fits) :
    readRequest? command.requestChars = some command := by
  have hparts := mapM_readParameter? fun p hp => (hcommand.parameters p hp).isWord_name
  simp [readRequest?, splitOn_requestChars hcommand, hparts]

theorem Fits.eq_of_requestLine_eq {command other : NativeCommand} (hcommand : command.Fits)
    (hother : other.Fits) (hline : command.requestLine = other.requestLine) : command = other := by
  have hchars : command.requestChars = other.requestChars := String.ofList_injective hline
  have hread := readRequest?_requestChars hcommand
  rw [hchars, readRequest?_requestChars hother, Option.some_inj] at hread
  exact hread.symm

theorem Fits.isPrintable_requestLine {command : NativeCommand} (hcommand : command.Fits) :
    IsPrintable command.requestLine := by
  have hpart : ∀ p ∈ command.parameters, ∀ c ∈ parameterChars p, Text.isControl c = false := by
    intro p hp
    have hname := (hcommand.parameters p hp).isWord_name.isPrintable
    have hvalue := isControl_of_mem_flatMap_escape (hcommand.parameters p hp).isPrintable_value
    refine List.forall_mem_append.mpr ⟨List.forall_mem_cons.mpr ⟨rfl, hname⟩, ?_⟩
    exact List.forall_mem_cons.mpr ⟨rfl, hvalue⟩
  rw [IsPrintable, requestLine, String.toList_ofList, requestChars]
  refine List.forall_mem_append.mpr ⟨hcommand.isWord_name.isPrintable, fun c hc => ?_⟩
  obtain ⟨p, hp, hc⟩ := List.mem_flatMap.mp hc
  exact hpart p hp c hc

end NativeCommand

/-! ## Payloads -/

def Argument.resolved (a : Argument) : Argument := { a with value := some a.text }

/-- The payload with the default adapter and empty values where it names none. -/
def Payload.resolved (defaultAdapter : String) : Payload → Payload
  | .listAdapters => .listAdapters
  | .scan adapter => .scan (some (adapter.getD defaultAdapter))
  | .sendCommand adapter destination timeout command =>
    .sendCommand (some (adapter.getD defaultAdapter)) destination timeout
      { command with arguments := command.arguments.map (·.resolved) }
  | .getConfig key adapter => .getConfig key (some (adapter.getD defaultAdapter))
  | .setConfig key value adapter => .setConfig key value (some (adapter.getD defaultAdapter))

theorem Kind.name_injective {k l : Kind} (h : k.name = l.name) : k = l := by
  have hread := ofName?_name k
  rw [h, ofName?_name, Option.some_inj] at hread
  exact hread.symm

/-- No sub-command is called like a kind. -/
theorem SubCommand.name_ne_of_check {command : SubCommand} (hcheck : command.check = .ok ())
    (k : Kind) : command.name ≠ k.name := by
  intro hname
  have hnone : Contract.ofSubCommand? k.name = none := by cases k <;> rfl
  simp [check, hname, hnone] at hcheck

namespace Message

variable {defaultAdapter : String} {seq : Nat} {p q : Payload}

theorem commandName_of_kind (hkind : p.kind ≠ .sendCommand) :
    (ofPayload seq defaultAdapter p).commandName = p.kind.name := commandName_of_ne hkind

theorem commandName_sendCommand (adapter : Option String) (destination : String) (timeout : UInt32)
    (command : SubCommand) :
    (ofPayload seq defaultAdapter (.sendCommand adapter destination timeout command)).commandName =
      command.name := by
  rw [commandName_of_eq rfl]
  rfl

theorem ofPayload_resolved :
    ofPayload seq defaultAdapter (p.resolved defaultAdapter) = ofPayload seq defaultAdapter p := by
  cases p <;>
    simp [ofPayload, Payload.resolved, Payload.kind, parametersOf, Argument.resolved, Argument.text,
      Function.comp_def]

theorem kind_eq_of_commandName_eq_name {r : Registry}
    (hp : Generic.checkContent r p = .ok ()) {k : Kind}
    (hname : (ofPayload seq defaultAdapter p).commandName = k.name) : p.kind = k := by
  cases p with
  | sendCommand adapter destination timeout command =>
      have hcheck : command.check = .ok () := by
        simp only [Generic.checkContent] at hp
        split at hp
        · contradiction
        · exact hp
      rw [commandName_sendCommand] at hname
      exact absurd hname (SubCommand.name_ne_of_check hcheck k)
  | listAdapters | scan | getConfig | setConfig => exact Kind.name_injective hname

theorem kind_eq_of_commandName_eq {r s : Registry} (hp : Generic.checkContent r p = .ok ())
    (hq : Generic.checkContent s q = .ok ())
    (hname : (ofPayload seq defaultAdapter p).commandName =
      (ofPayload seq defaultAdapter q).commandName) : p.kind = q.kind := by
  by_cases hkind : q.kind = .sendCommand
  · by_cases hother : p.kind = .sendCommand
    · rw [hother, hkind]
    · rw [commandName_of_kind hother] at hname
      exact (kind_eq_of_commandName_eq_name hq hname.symm).symm
  · rw [commandName_of_kind hkind] at hname
    exact kind_eq_of_commandName_eq_name hp hname

theorem resolved_eq_of_text_eq {arguments others : List Argument}
    (h : arguments.map (fun a => (⟨a.name, a.text⟩ : Parameter)) =
      others.map fun a => ⟨a.name, a.text⟩) :
    arguments.map (·.resolved) = others.map (·.resolved) := by
  have hmap := congrArg (List.map fun p : Parameter => (⟨p.name, some p.value⟩ : Argument)) h
  simpa [Function.comp_def, Argument.resolved] using hmap

theorem resolved_eq_of_parametersOf_eq (hkind : p.kind = q.kind)
    (hparameters : parametersOf defaultAdapter p = parametersOf defaultAdapter q) :
    p.resolved defaultAdapter = q.resolved defaultAdapter := by
  cases p with
  | sendCommand adapter destination timeout command =>
      cases q with
      | sendCommand adapter' destination' timeout' command' =>
          simp only [parametersOf, List.cons_append, List.nil_append, List.cons.injEq,
            Parameter.mk.injEq, true_and] at hparameters
          obtain ⟨hadapter, hdestination, htimeout, hname, harguments⟩ := hparameters
          have htimeout := UInt32.toNat_inj.mp (Decimal.render_injective htimeout)
          simp only [Payload.resolved, hadapter, hdestination, htimeout, hname,
            resolved_eq_of_text_eq harguments]
      | listAdapters | scan | getConfig | setConfig => contradiction
  | listAdapters => cases q <;> first | rfl | contradiction
  | scan => cases q <;> simp_all [parametersOf, Payload.resolved, Payload.kind]
  | getConfig => cases q <;> simp_all [parametersOf, Payload.resolved, Payload.kind]
  | setConfig => cases q <;> simp_all [parametersOf, Payload.resolved, Payload.kind]

end Message

theorem bind_eq_ok {ε α β : Type} {x : Except ε α} {f : α → Except ε β} {b : β} :
    (x >>= f) = .ok b ↔ ∃ a, x = .ok a ∧ f a = .ok b := by
  cases x <;> simp [bind, Except.bind]

namespace Generic

theorem validate_eq_ok {g : Generic} {payload : Payload} :
    g.validate payload = .ok () ↔ checkAdapter g.registry payload = .ok () ∧
      checkContent g.registry payload = .ok () ∧ checkLimits g.defaultAdapter payload = .ok () := by
  constructor
  · intro hvalid
    obtain ⟨⟨⟩, hknown, hrest⟩ := bind_eq_ok.mp hvalid
    obtain ⟨⟨⟩, hcontent, hlimits⟩ := bind_eq_ok.mp hrest
    exact ⟨hknown, hcontent, hlimits⟩
  · rintro ⟨hknown, hcontent, hlimits⟩
    exact bind_eq_ok.mpr ⟨(), hknown, bind_eq_ok.mpr ⟨(), hcontent, hlimits⟩⟩

theorem exists_native {g : Generic} {payload : Payload} (hvalid : g.validate payload = .ok ())
    (seq : Nat) : ∃ command, (g.messageOf seq payload).toNative = .ok command := by
  obtain ⟨-, -, hlimits⟩ := validate_eq_ok.mp hvalid
  unfold checkLimits at hlimits
  cases hnative : (Message.ofPayload 0 g.defaultAdapter payload).toNative with
  | error fault => simp [hnative] at hlimits
  | ok command => exact ⟨command, hnative⟩

end Generic

/-- Valid payloads, of whatever handlers with one default adapter, have the same request line only
if they are the same up to the default adapter and empty values; and no line holds a control
character. -/
theorem request_line_determines_payload (g h : Generic)
    (hadapter : g.defaultAdapter = h.defaultAdapter) (p q : Payload) (seq other : Nat)
    (hp : g.validate p = .ok ()) (hq : h.validate q = .ok ()) :
    ∃ command command', (g.messageOf seq p).toNative = .ok command ∧
      (h.messageOf other q).toNative = .ok command' ∧
      (command.requestLine = command'.requestLine ↔
        p.resolved g.defaultAdapter = q.resolved g.defaultAdapter) ∧
      IsPrintable command.requestLine := by
  obtain ⟨command, hcommand⟩ := Generic.exists_native hp seq
  obtain ⟨command', hcommand'⟩ := Generic.exists_native hq other
  have hnative : (Message.ofPayload 0 g.defaultAdapter p).toNative = .ok command := hcommand
  have hnative' : (Message.ofPayload 0 g.defaultAdapter q).toNative = .ok command' := by
    rw [hadapter]
    exact hcommand'
  obtain ⟨hfits, hname, hparameters⟩ := Message.toNative_eq_ok.mp hnative
  obtain ⟨hfits', hname', hparameters'⟩ := Message.toNative_eq_ok.mp hnative'
  refine ⟨command, command', hcommand, hcommand', ⟨fun hline => ?_, fun hresolved => ?_⟩,
    hfits.isPrintable_requestLine⟩
  · obtain rfl := hfits.eq_of_requestLine_eq hfits' hline
    obtain ⟨-, hcontent, -⟩ := Generic.validate_eq_ok.mp hp
    obtain ⟨-, hcontent', -⟩ := Generic.validate_eq_ok.mp hq
    have hkind := Message.kind_eq_of_commandName_eq hcontent hcontent' (hname.symm.trans hname')
    exact Message.resolved_eq_of_parametersOf_eq hkind (hparameters.symm.trans hparameters')
  · rw [← Message.ofPayload_resolved, hresolved, Message.ofPayload_resolved, hnative'] at hnative
    rw [Except.ok.inj hnative]

/-- A value that looks like another parameter is still a value. -/
theorem request_line_of_hostile_value :
    let hostile : Payload := .setConfig "osd" "TV adapter=other%20" none
    let honest : Payload := .setConfig "osd" "TV" (some "other")
    ∃ command command',
      (Message.ofPayload 1 "RPI" hostile).toNative = .ok command ∧
      (Message.ofPayload 2 "RPI" honest).toNative = .ok command' ∧
      command.requestLine ≠ command'.requestLine := by
  let g : Generic := { defaultAdapter := "RPI" }
  let h : Generic := { g with registry := g.registry.replaceAdapters ["other"] }
  have hhostile : g.validate (.setConfig "osd" "TV adapter=other%20" none) = .ok () := by decide
  have hhonest : h.validate (.setConfig "osd" "TV" (some "other")) = .ok () := by decide
  obtain ⟨command, command', hcommand, hcommand', hline, -⟩ :=
    request_line_determines_payload g h rfl _ _ 1 2 hhostile hhonest
  exact ⟨command, command', hcommand, hcommand', fun heq => absurd (hline.mp heq) (by decide)⟩

end CecGateway
