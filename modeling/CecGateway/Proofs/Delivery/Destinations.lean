import CecGateway.Proofs.Controller.Sightings
import CecGateway.Proofs.Reply.Records
import CecGateway.Proofs.RequestLine

/-!
# Where destinations come from

A destination is known from the moment when a scan that has reported it is folded into the registry.
What a scan reports are the addresses of the records of its reply; a record that says nothing of
its address has the empty one, and makes it a destination too (`destinations_are_reported`).
-/

namespace CecGateway

theorem Registry.mem_addresses_ofResults {results : List Result} {address : String} :
    address ∈ (ofResults results).addresses ↔ ∃ result ∈ results, ∃ devices,
      result.devices? = some devices ∧ address ∈ devices.map (·.address) := by
  induction results using List.reverseRecOn with
  | nil => simp [ofResults, addresses]
  | append_singleton results result ih =>
      rw [ofResults_concat]
      cases hdevices : result.devices? with
      | none =>
          have hsame : ((ofResults results).fold result).addresses =
              (ofResults results).addresses := by
            simp only [addresses, fold, hdevices, Option.elim]
          rw [hsame, ih]
          simp [or_and_right, exists_or, hdevices]
      | some scanned =>
          rw [mem_addresses_fold hdevices, ih]
          simp [or_and_right, exists_or, hdevices, or_comm]

theorem Queue.eq_of_outcomeFor {fault? : Option Fault} {message : Message}
    {answer : Except Fault Response} {lines : List String}
    (h : outcomeFor fault? message answer = .lines lines) :
    fault? = none ∧ answer = .ok (.lines lines) := by
  unfold outcomeFor at h
  split at h
  · next hcommand =>
      refine ⟨?_, Outcome.ofAnswer_eq_lines_iff.mp h⟩
      cases fault? with
      | none => rfl
      | some fault => contradiction
  · contradiction

namespace Relay

/-! ## What is reported has been answered -/

/-- Every result that has devices, completed or on its way, is read off what some scan has been
answered. -/
structure Sourced (answered : Command → List String → Prop) (r : Relay) (seen : List Event) :
    Prop where
  completed : ∀ c ∈ Event.completions seen, ∀ devices, c.2.devices? = some devices →
    ∃ command lines, answered command lines ∧ command.ticket = c.1 ∧
      c.2 = Reply.interpret command.payload lines
  delivery : ∀ d, r.delivery? = some d → ∀ devices, d.result.devices? = some devices →
    ∃ lines, answered d.command lines ∧ d.result = Reply.interpret d.command.payload lines

variable {r next : Relay} {s : Step} {seen events : List Event}
  {answered : Command → List String → Prop}

theorem Sourced.mono (h : r.Sourced answered seen) {further : Command → List String → Prop}
    (hmono : ∀ command lines, answered command lines → further command lines) :
    r.Sourced further seen where
  completed := by
    intro c hc devices hdevices
    obtain ⟨command, lines, hanswered, hrest⟩ := h.completed c hc devices hdevices
    exact ⟨command, lines, hmono _ _ hanswered, hrest⟩
  delivery := by
    intro d hd devices hdevices
    obtain ⟨lines, hanswered, hrest⟩ := h.delivery d hd devices hdevices
    exact ⟨lines, hmono _ _ hanswered, hrest⟩

/-- While a result is on its way to its command, nothing else is reported. -/
theorem Sourced.carry {command : Command} {result : Result} {stage later : Stage}
    (h : r.Sourced answered seen) (hcurrent : r.delivery? = some ⟨command, result, stage⟩)
    (hnext : next.delivery? = some ⟨command, result, later⟩)
    (hevents : Event.completions events = []) : next.Sourced answered (seen ++ events) where
  completed := by
    rw [Event.completions_append, hevents, List.append_nil]
    exact h.completed
  delivery := by
    intro d hd
    obtain rfl := Option.some_inj.mp (hnext.symm.trans hd)
    have hsame := h.delivery _ hcurrent
    exact hsame

theorem Effect.sourced (h : r.Effect s next events) (hfollows : r.Follows seen)
    (hsourced : r.Sourced answered seen)
    (hanswers : ∀ message p adapter lines, s = .receive (.ok (.lines lines)) →
      r.delivery? = none → r.handler.queue.worker = .busy none message →
        r.handler.pending? message.seq = some p → p.command.payload = .scan adapter →
          answered p.command lines) :
    next.Sourced answered (seen ++ events) := by
  have ⟨hcompleted, hdelivery⟩ := hsourced
  cases h with
  | traffic hfinish heffect =>
      obtain ⟨-, -, hdata, -⟩ := heffect.frame hfinish
      refine ⟨?_, hdelivery⟩
      rw [Event.completions_append]
      refine List.forall_mem_append.mpr ⟨hcompleted, fun c hc devices hdevices => ?_⟩
      have hnone := hdata c.2 (List.mem_map_of_mem hc)
      simp [Result.devices?, hnone] at hdevices
  | dropped hidle =>
      rw [List.append_nil]
      exact ⟨hcompleted, hdelivery⟩
  | @received answer fault? message p result hidle hworker hpending hresult =>
      rw [List.append_nil]
      refine ⟨hcompleted, fun d hd devices hdevices => ?_⟩
      obtain rfl := Option.some_inj.mp hd
      rw [hresult, Generic.devices?_resultOf] at hdevices
      obtain ⟨adapter, lines, hscan, houtcome, -⟩ := hdevices
      obtain ⟨rfl, rfl⟩ := Queue.eq_of_outcomeFor houtcome
      refine ⟨lines, hanswers message p adapter lines rfl hidle hworker hpending hscan, ?_⟩
      rw [hresult, houtcome]
      rfl
  | folded hcurrent => exact hsourced.carry hcurrent rfl rfl
  | enlisted hcurrent => exact hsourced.carry hcurrent rfl rfl
  | @told command result event left hcurrent =>
      have hleft := hfollows.results_left
      rw [hcurrent] at hleft
      have hevent : Event.completions [event] = [] :=
        List.map_eq_nil_iff.mp (results_cons_eq_nil hleft).1
      exact hsourced.carry hcurrent rfl hevent
  | @completed command result fault? message hcurrent hworker =>
      refine ⟨?_, by simp⟩
      rw [Event.completions_append]
      refine List.forall_mem_append.mpr ⟨hcompleted,
        List.forall_mem_singleton.mpr fun devices hdevices => ?_⟩
      obtain ⟨lines, hanswered, hlines⟩ := hdelivery _ hcurrent devices hdevices
      exact ⟨command, lines, hanswered, rfl, hlines⟩

/-! ## Scans of a run -/

variable {first : Relay} {steps : List Step} {command : Command} {lines : List String}

/-- A scan of this run that the hardware has answered with these lines. -/
structure Scans (first : Relay) (steps : List Step) (command : Command) (lines : List String) :
    Prop where
  isScan : ∃ adapter, command.payload = .scan adapter
  answered : ∃ earlier later message p,
    steps = earlier ++ .receive (.ok (.lines lines)) :: later ∧
      (first.run earlier).1.delivery? = none ∧
      (first.run earlier).1.handler.queue.worker = .busy none message ∧
      (first.run earlier).1.handler.pending? message.seq = some p ∧ p.command = command

theorem Scans.append (h : first.Scans steps command lines) (more : List Step) :
    first.Scans (steps ++ more) command lines := by
  obtain ⟨hscan, earlier, later, message, p, rfl, hrest⟩ := h
  exact ⟨hscan, earlier, later ++ more, message, p, by simp, hrest⟩

theorem Follows.sourced_run (h : first.Follows []) (hidle : first.delivery? = none)
    (steps : List Step) :
    (first.run steps).1.Sourced (first.Scans steps) (first.run steps).2 := by
  induction steps using List.reverseRecOn with
  | nil => exact ⟨by simp [Relay.run], by simp [Relay.run, hidle]⟩
  | append_singleton steps s ih =>
      have hfollows := h.run steps
      rw [List.nil_append] at hfollows
      have hbefore := ih.mono fun command lines hscans => Scans.append hscans [s]
      rw [run_append]
      cases hstep : (first.run steps).1.step s with
      | none => simpa [Relay.run, hstep] using hbefore
      | some pair =>
          obtain ⟨next, events⟩ := pair
          rw [run_cons_of_step hstep, Relay.run, List.append_nil]
          refine (effect_of_step hstep).sourced hfollows hbefore ?_
          rintro message p adapter lines rfl hnone hworker hpending hscan
          exact ⟨⟨adapter, hscan⟩, steps, [], message, p, rfl, hnone, hworker, hpending, rfl⟩

/-- The result of a command has been completed, or is in the registry and on its way. -/
def IsKnown (r : Relay) (seen : List Event) (command : Command) (result : Result) : Prop :=
  (command.ticket, result) ∈ Event.completions seen ∨
    ∃ stage, stage ≠ .taken ∧ r.delivery? = some ⟨command, result, stage⟩

/-- Some record of what a scan has been answered so far has this address. -/
def Reports (first : Relay) (steps : List Step) (address : String) : Prop :=
  ∃ command lines, first.Scans steps command lines ∧
    (first.run steps).1.IsKnown (first.run steps).2 command
      (Reply.interpret command.payload lines) ∧
    ∃ s ∈ Reply.sections lines, Reply.addressIn s.body = address

theorem mem_results_of_isKnown {result : Result} (h : r.IsKnown seen command result) :
    result ∈ Event.results seen ++ Delivery.kept r.delivery? := by
  obtain hcompleted | ⟨stage, hstage, hdelivery⟩ := h
  · exact List.mem_append_left _ (List.mem_map_of_mem hcompleted)
  · refine List.mem_append_right _ ?_
    rw [hdelivery]
    cases stage with
    | taken => contradiction
    | folded | telling => exact List.mem_singleton_self result

theorem Sourced.isKnown_of_mem (h : r.Sourced answered seen) {result : Result}
    {devices : List Device} (hdevices : result.devices? = some devices)
    (hmem : result ∈ Event.results seen ++ Delivery.kept r.delivery?) :
    ∃ command lines, answered command lines ∧ result = Reply.interpret command.payload lines ∧
      r.IsKnown seen command result := by
  obtain hmem | hmem := List.mem_append.mp hmem
  · obtain ⟨⟨ticket, _⟩, hc, rfl⟩ := List.mem_map.mp hmem
    obtain ⟨command, lines, hanswered, rfl, hlines⟩ := h.completed _ hc devices hdevices
    exact ⟨command, lines, hanswered, hlines, .inl hc⟩
  · cases hdelivery : r.delivery? with
    | none => simp [hdelivery, Delivery.kept] at hmem
    | some d =>
        obtain ⟨command, kept, stage⟩ := d
        have hstage : stage ≠ .taken := by
          rintro rfl
          simp [hdelivery, Delivery.kept] at hmem
        obtain rfl : result = kept := by
          cases stage <;> simp_all [Delivery.kept]
        obtain ⟨lines, hanswered, hlines⟩ := h.delivery _ hdelivery devices hdevices
        exact ⟨command, lines, hanswered, hlines, .inr ⟨stage, hstage, hdelivery⟩⟩

theorem mem_addresses_iff_reports (defaultAdapter : String) (observers : Nat) (steps : List Step)
    (address : String) :
    address ∈ ((start defaultAdapter observers).run steps).1.handler.registry.addresses ↔
      (start defaultAdapter observers).Reports steps address := by
  have hstart := follows_start defaultAdapter observers
  have hfollows := hstart.run steps
  have hsourced := hstart.sourced_run rfl steps
  rw [List.nil_append] at hfollows
  rw [hfollows.registry_eq, Registry.mem_addresses_ofResults]
  constructor
  · rintro ⟨result, hmem, devices, hdevices, haddress⟩
    obtain ⟨command, lines, hscans, rfl, hknown⟩ := hsourced.isKnown_of_mem hdevices hmem
    obtain ⟨-, rfl⟩ := Reply.devices?_interpret.mp hdevices
    obtain ⟨d, hd, rfl⟩ := List.mem_map.mp haddress
    rw [Reply.devices_eq] at hd
    obtain ⟨s, hs, rfl⟩ := List.mem_map.mp hd
    exact ⟨command, lines, hscans, hknown, s, hs, s.address_device.symm⟩
  · rintro ⟨command, lines, hscans, hknown, s, hs, rfl⟩
    refine ⟨_, mem_results_of_isKnown hknown, Reply.devices lines,
      Reply.devices?_interpret.mpr ⟨hscans.isScan, rfl⟩, ?_⟩
    rw [Reply.devices_eq, ← s.address_device]
    exact List.mem_map_of_mem (List.mem_map_of_mem hs)

end Relay

/-- Whatever the calls, the hardware and the subscriptions are, a command is accepted only for the
address of a record in the reply to a scan, and the address is not unknown from then on. It is read
off a line of the record, unless it is empty and no line of the record has one. -/
theorem destinations_are_reported (defaultAdapter : String) (observers : Nat)
    (steps : List Relay.Step) (adapter : Option String) (destination : String) (timeout : UInt32)
    (sub : SubCommand) :
    let first := Relay.start defaultAdapter observers
    let now := (first.run steps).1
    let seen := (first.run steps).2
    let verdict := now.handler.validate (.sendCommand adapter destination timeout sub)
    (verdict = .ok () → ∃ command lines, first.Scans steps command lines ∧
      now.IsKnown seen command (Reply.interpret command.payload lines) ∧
      (Reply.NamesAddress lines destination ∨ destination = "" ∧ Reply.LeavesAddress lines)) ∧
      (first.Reports steps destination → verdict ≠ .error .invalidDestination) := by
  intro first now seen verdict
  have hknown := Relay.mem_addresses_iff_reports defaultAdapter observers steps destination
  refine ⟨fun hvalid => ?_, fun hreports => ?_⟩
  · have haddress : destination ∈ now.handler.registry.addresses := by
      obtain ⟨-, hcontent, -⟩ := Generic.validate_eq_ok.mp hvalid
      rw [Registry.mem_addresses_iff]
      by_contra hunknown
      rw [Option.not_isSome_iff_eq_none] at hunknown
      simp [Generic.checkContent, hunknown] at hcontent
    obtain ⟨command, lines, hscans, hcommand, s, hs, hgiven⟩ := hknown.mp haddress
    refine ⟨command, lines, hscans, hcommand, ?_⟩
    by_cases hempty : destination = ""
    · exact .inr ⟨hempty, Reply.leavesAddress_of_mem hs (hgiven.trans hempty)⟩
    · exact .inl (Reply.namesAddress_of_mem hs hempty hgiven)
  · exact Relay.validate_ne_invalidDestination (hknown.mpr hreports) adapter timeout sub

/-- A scan from its offer to its completion, with this reply. -/
def scanning (lines : List String) : List Relay.Step :=
  [.traffic (.offer ⟨0, .scan none⟩), .traffic (.advance 0), .traffic (.advance 0),
    .traffic (.advance 0), .traffic (.work (.start (.ok ()))), .traffic (.work .pop),
    .receive (.ok (.lines lines)), .fold, .enlist, .complete]

theorem television_is_reported :
    let lines := ["device #0: TV", "vendor: LG", "address: 0.0.0.0"]
    let first := Relay.start "RPI" 0
    let verdict := (first.run (scanning lines)).1.handler.validate
      (.sendCommand none "0.0.0.0" 1000 ⟨"active", []⟩)
    verdict = .ok () ∧ ∃ command reply, first.Scans (scanning lines) command reply ∧
      Reply.NamesAddress reply "0.0.0.0" := by
  intro lines first verdict
  have hvalid : verdict = .ok () := by decide +kernel
  obtain ⟨command, reply, hscans, -, hgiven | ⟨hempty, -⟩⟩ :=
    (destinations_are_reported "RPI" 0 (scanning lines) none "0.0.0.0" 1000 ⟨"active", []⟩).1 hvalid
  · exact ⟨hvalid, command, reply, hscans, hgiven⟩
  · exact absurd hempty (by decide)

theorem silent_record_is_a_destination :
    let lines := ["device #0: TV", "vendor: LG"]
    let verdict := ((Relay.start "RPI" 0).run (scanning lines)).1.handler.validate
      (.sendCommand none "" 1000 ⟨"active", []⟩)
    verdict = .ok () ∧ ∀ line ∈ lines, Line.contains "address" line = false := by
  decide +kernel

end CecGateway
