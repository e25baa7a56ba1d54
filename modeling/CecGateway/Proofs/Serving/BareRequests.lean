import CecGateway.Proofs.Acceptance
import CecGateway.Proofs.Controller.Construction
import CecGateway.Proofs.Serving.Provenance

/-!
# Requests that name no adapter

A request to scan or to read a setting that names no adapter is for the adapter that is assumed, and
the name of that adapter is held to the tool's limits each time. A configuration is valid without
regard to these limits. So a daemon takes all such requests, and hands them to its queue, or it
rejects all of them, and which of the two depends on the name alone
(`bare_requests_need_a_fit_adapter`).
-/

namespace CecGateway

/-- A scan, or a look at a setting that there is, of the adapter that is assumed. -/
def Payload.isBare : Payload → Bool
  | scan none => true
  | getConfig key none => key ∈ readableKeys
  | _ => false

namespace Payload

variable {p : Payload}

theorem isBare_iff :
    p.isBare = true ↔ p = scan none ∨ ∃ key ∈ readableKeys, p = getConfig key none := by
  cases p with
  | scan adapter => cases adapter <;> simp [isBare]
  | getConfig key adapter => cases adapter <;> simp [isBare]
  | listAdapters | sendCommand | setConfig => simp [isBare]

end Payload

theorem Generic.validate_of_isBare (g : Generic) {p : Payload} (hbare : p.isBare = true) :
    g.validate p = if IsFit g.defaultAdapter then .ok () else .error .invalidParameters := by
  have hlimits : checkLimits g.defaultAdapter p =
      if IsFit g.defaultAdapter then .ok () else .error .invalidParameters := by
    have hunfit : p.HoldsUnfitText g.defaultAdapter ↔ ¬IsFit g.defaultAdapter := by
      rw [Payload.holdsUnfitText_iff]
      obtain rfl | ⟨key, -, rfl⟩ := Payload.isBare_iff.mp hbare <;> simp [Payload.freeTexts]
    rw [checkLimits_eq g.defaultAdapter, if_congr hunfit rfl rfl, ite_not]
    all_goals
      obtain rfl | ⟨key, hkey, rfl⟩ := Payload.isBare_iff.mp hbare <;>
        simp_all [Payload.NamesUnknownSubCommand, Payload.BreaksContract, Payload.NamesUnknownKey]
  obtain rfl | ⟨key, hkey, rfl⟩ := Payload.isBare_iff.mp hbare
  · exact hlimits
  · have hcontent : checkKey readableKeys key = .ok () := if_pos hkey
    simp only [validate, checkAdapter, checkContent, Payload.adapter?, hcontent]
    exact hlimits

/-! ## While the queue is open -/

namespace Traffic

def Step.keepsOpen : Step → Bool
  | .shut | .abandon => false
  | _ => true

/-- The command whose message a step puts on the queue. -/
def enqueues (t : Traffic) : Step → List Command
  | .advance place =>
    match t.callers[place]? with
    | some ⟨command, .recorded _⟩ => if t.handler.queue.isShut then [] else [command]
    | _ => []
  | _ => []

variable {t next : Traffic} {s : Step} {events : List Event}

/-- What is accepted is in the hands of a call until it is sent. -/
theorem Effect.callers_perm (h : t.Effect s next events)
    (hopen : t.handler.queue.isShut = false) :
    (next.callers.map (·.command) ++ t.enqueues s).Perm
      (t.callers.map (·.command) ++ t.accepts s) := by
  cases h with
  | rejected hinvalid => simp [enqueues, accepts, hinvalid]
  | entered hvalid => simp [enqueues, accepts, hvalid]
  | numbered hcallers => simp [enqueues, accepts, hcallers]
  | recorded hcallers => simp [enqueues, accepts, hcallers]
  | @submitted before after command seq hcallers _ =>
      have hmoved := (List.perm_append_singleton command (after.map (·.command))).append_left
        (before.map (·.command))
      simpa [enqueues, accepts, hcallers, hopen] using hmoved
  | refused _ hshut _ => simp [hopen] at hshut
  | bereft _ hshut _ => simp [hopen] at hshut
  | subscribed | started | popped | answered | unmatched | stopped | closed | abandoned =>
      simp [enqueues, accepts, withQueue]

theorem Effect.waiting_of_enqueues (h : t.Effect s next events) {command : Command}
    (henqueues : command ∈ t.enqueues s) :
    ∃ seq, next.handler.queue.waiting =
      t.handler.queue.waiting ++ [t.handler.messageOf seq command.payload] := by
  cases h with
  | @submitted before after other seq hcallers hopen =>
      obtain rfl : command = other := by simpa [enqueues, hcallers, hopen] using henqueues
      exact ⟨seq, rfl⟩
  | numbered hcallers => simp [enqueues, hcallers] at henqueues
  | recorded hcallers => simp [enqueues, hcallers] at henqueues
  | refused hcallers hshut _ => simp [enqueues, hcallers, hshut] at henqueues
  | bereft hcallers hshut _ => simp [enqueues, hcallers, hshut] at henqueues
  | rejected | entered | subscribed | started | popped | answered | unmatched | stopped | closed
  | abandoned => simp [enqueues] at henqueues

theorem accepts_bare (t : Traffic) (s : Step) :
    (t.accepts s).filter (·.payload.isBare) =
      if IsFit t.handler.defaultAdapter then s.offers.filter (·.payload.isBare) else [] := by
  cases s with
  | offer command =>
      cases hbare : command.payload.isBare with
      | false =>
          simp only [accepts, Step.offers]
          split <;> simp [hbare]
      | true =>
          simp only [accepts, Step.offers, t.handler.validate_of_isBare hbare]
          split_ifs <;> simp [hbare]
  | advance | subscribe | work | shut | abandon => simp [accepts, Step.offers]

theorem Effect.events_of_bare (h : t.Effect s next events) {command : Command}
    (hoffer : command ∈ s.offers) (hbare : command.payload.isBare = true) :
    events = if IsFit t.handler.defaultAdapter then []
      else [Generic.fail .invalidParameters command.payload.kind command] := by
  have hvalidate := t.handler.validate_of_isBare hbare
  cases h with
  | rejected hinvalid =>
      obtain rfl := List.mem_singleton.mp hoffer
      rw [hinvalid] at hvalidate
      split_ifs at hvalidate with hfit
      rw [if_neg hfit, Except.error.inj hvalidate]
  | entered hvalid =>
      obtain rfl := List.mem_singleton.mp hoffer
      rw [hvalid] at hvalidate
      split_ifs at hvalidate with hfit
      rw [if_pos hfit]
  | numbered | recorded | submitted | refused | bereft | subscribed | started | popped | answered
  | unmatched | stopped | closed | abandoned => simp [Step.offers] at hoffer

end Traffic

namespace History

/-- The commands whose messages have been put on the queue. -/
def enqueued (h : History) : List Command := h.past.flatMap fun m => m.before.enqueues m.step

/-- What has become of the requests that name no adapter, where this one is assumed. -/
structure TreatsBare (adapter : String) (h : History) : Prop where
  validate_eq : ∀ p : Payload, p.isBare = true → h.now.handler.validate p =
    if IsFit adapter then .ok () else .error .invalidParameters
  /-- Nothing is seen of a call that is taken; one that is not is answered at once. -/
  events_eq : ∀ m ∈ h.past, ∀ command ∈ m.step.offers, command.payload.isBare = true →
    m.events = if IsFit adapter then []
      else [Generic.fail .invalidParameters command.payload.kind command]
  /-- All that have been offered are on the queue, or have been, or will be when their calls go
  on, or else none are. -/
  enqueued_perm :
    ((h.now.callers.map (·.command) ++ h.enqueued).filter (·.payload.isBare)).Perm
      (if IsFit adapter then h.now.offered.filter (·.payload.isBare) else [])
  /-- A command is put on the queue as its message, behind all that wait. -/
  waiting_eq : ∀ step next events, h.now.step step = some (next, events) →
    ∀ command ∈ h.now.enqueues step, ∃ seq, next.handler.queue.waiting =
      h.now.handler.queue.waiting ++ [h.now.handler.messageOf seq command.payload]

/-- What carries `TreatsBare` from step to step. -/
structure Assumes (adapter : String) (h : History) : Prop where
  adapter_eq : h.now.handler.defaultAdapter = adapter
  isOpen : h.now.handler.queue.isShut = false
  treats : h.TreatsBare adapter

variable {h : History} {adapter : String}

theorem assumes_begin {g : Generic} (hopen : g.queue.isShut = false) :
    Assumes g.defaultAdapter { now := { handler := g } } where
  adapter_eq := rfl
  isOpen := hopen
  treats := ⟨fun _ => g.validate_of_isBare, by simp, by simp [enqueued],
    fun _ _ _ hstep _ => (Traffic.effect_of_step hstep).waiting_of_enqueues⟩

theorem Assumes.extend (hassumes : h.Assumes adapter) {s : Traffic.Step} {next : Traffic}
    {events : List Event} (hkeeps : s.keepsOpen = true) (heffect : h.now.Effect s next events) :
    Assumes adapter ⟨next, h.past ++ [⟨h.now, s, events⟩]⟩ := by
  obtain ⟨rfl, hopen, -, hevents, hperm, -⟩ := hassumes
  have hadapter := heffect.defaultAdapter
  obtain ⟨-, hshut⟩ := heffect.stays_open (by rintro rfl; contradiction)
    (by rintro rfl; contradiction)
  refine ⟨hadapter, hshut.trans hopen, fun p hbare => ?_, ?_, ?_,
    fun _ _ _ hstep _ => (Traffic.effect_of_step hstep).waiting_of_enqueues⟩
  · rw [next.handler.validate_of_isBare hbare, hadapter]
  · exact List.forall_mem_append.mpr ⟨hevents, List.forall_mem_singleton.mpr fun command hoffer =>
      heffect.events_of_bare hoffer⟩
  · have henqueued : enqueued ⟨next, h.past ++ [⟨h.now, s, events⟩]⟩ =
        h.enqueued ++ h.now.enqueues s := by
      simp [enqueued]
    have hcallers := heffect.callers_perm hopen
    have hall : (next.callers.map (·.command) ++ (h.enqueued ++ h.now.enqueues s)).Perm
        (h.now.callers.map (·.command) ++ h.enqueued ++ h.now.accepts s) := by
      rw [List.perm_iff_count] at hcallers ⊢
      intro command
      have hcount := hcallers command
      simp only [List.count_append] at hcount ⊢
      omega
    have hbare := hall.filter (·.payload.isBare)
    rw [henqueued, heffect.offered]
    simp only [List.filter_append, h.now.accepts_bare] at hbare hperm ⊢
    refine hbare.trans ((hperm.append_right _).trans ?_)
    split_ifs
    · exact .refl _
    · exact .refl _

theorem Assumes.follow (hassumes : h.Assumes adapter) {schedule : List Traffic.Step}
    (hkeeps : ∀ s ∈ schedule, s.keepsOpen = true) : (h.follow schedule).Assumes adapter := by
  induction schedule generalizing h with
  | nil => exact hassumes
  | cons s rest ih =>
      obtain ⟨hfirst, hrest⟩ := List.forall_mem_cons.mp hkeeps
      refine ih ?_ hrest
      unfold History.extend
      cases hnext : h.now.step s with
      | none => exact hassumes
      | some pair => exact hassumes.extend hfirst (Traffic.effect_of_step hnext)

end History

/-! ## Between sessions -/

namespace Controller

/-- Ready, with the handlers built, and this adapter is assumed. -/
structure Assumes (c : Controller) (hardware : Hardware) (adapter : String) : Prop where
  isSetUp : c.isSetUp = true
  ready : ∃ g, c.Ready hardware true g ∧ g.defaultAdapter = adapter

/-- How a request that names no adapter is dispatched where this one is assumed: it is rejected, or
handed to the queue, and executed if the hardware could be opened. -/
inductive DispatchesBare (c : Controller) (hardware : Hardware) (adapter : String)
    (command : Command) : Prop
  | rejected (hunfit : ¬IsFit adapter)
      (hcompletions : Event.completions (c.dispatch hardware command).2.2 =
        [(command.ticket, .failure command.payload.kind .invalidParameters)])
      (hcalls : Event.calls (c.dispatch hardware command).2.2 = [])
  | unopened {fault : Fault} (hfit : IsFit adapter) (hopening : hardware.opening = .error fault)
      (hcompletions : Event.completions (c.dispatch hardware command).2.2 =
        [(command.ticket, .failure command.payload.kind fault.failure)])
      (hcalls : Event.calls (c.dispatch hardware command).2.2 = [])
  | executed {native : NativeCommand} (hfit : IsFit adapter) (hopening : hardware.opening = .ok ())
      (hnative : command.payload.native? adapter = some native)
      (hcalls : Event.calls (c.dispatch hardware command).2.2 = [.executed native])

variable {c : Controller} {hardware : Hardware} {adapter : String} {g : Generic}

theorem Ready.dispatch_defaultAdapter {watches : Bool} (hready : c.Ready hardware watches g)
    (command : Command) :
    ∃ after, (c.dispatch hardware command).1.Ready hardware watches after ∧
      after.defaultAdapter = g.defaultAdapter := by
  let t : Traffic := { handler := g }
  let awake : Traffic := { t with handler := (c.awaken hardware g).1 }
  let called : Traffic := { awake with
    handler := (awake.handler.handle command).1
    offered := awake.offered ++ [command] }
  have hleads := (c.awaken_leads hardware t).of_internal.trans
    ((awake.handle_leads command).trans (Traffic.settle_leads hardware false called).of_internal)
  exact ⟨_, hready.dispatch_ready command, hleads.defaultAdapter⟩

theorem Assumes.dispatch (h : c.Assumes hardware adapter) (command : Command) :
    (c.dispatch hardware command).1.Assumes hardware adapter := by
  obtain ⟨-, g, hready, rfl⟩ := h
  exact ⟨isSetUp_dispatch hardware c command, hready.dispatch_defaultAdapter command⟩

theorem Assumes.dispatchesBare (h : c.Assumes hardware adapter) {command : Command}
    (hbare : command.payload.isBare = true) : c.DispatchesBare hardware adapter command := by
  obtain ⟨hbuilt, g, hready, rfl⟩ := h
  obtain ⟨-, later, result, -, hevents, hcompletions, hcourse⟩ := hready.dispatch command
  have hawake : c.awaken hardware g = (g, []) := by rw [awaken, if_pos hbuilt]
  rw [setUp_of_isSetUp hbuilt, List.nil_append] at hevents
  rw [← hevents, hawake] at hcourse
  have hvalidate := g.validate_of_isBare hbare
  generalize hcalls : Event.calls (c.dispatch hardware command).2.2 = calls at hcourse
  cases hcourse with
  | rejected hinvalid =>
      rw [hinvalid] at hvalidate
      split_ifs at hvalidate with hfit
      rw [Except.error.inj hvalidate] at hcompletions
      exact .rejected hfit hcompletions hcalls
  | unopened hvalid hopening =>
      rw [hvalid] at hvalidate
      split_ifs at hvalidate with hfit
      exact .unopened hfit hopening hcompletions hcalls
  | executed hvalid hopening hnative =>
      rw [hvalid] at hvalidate
      split_ifs at hvalidate with hfit
      exact .executed hfit hopening hnative hcalls

end Controller

theorem Session.assumes_foldl_read {hardware : Hardware} {adapter : String} {x : Session}
    (h : x.controller.Assumes hardware adapter) (lines : List (List UInt8)) :
    (lines.foldl (Session.read hardware) x).controller.Assumes hardware adapter := by
  induction lines generalizing x with
  | nil => exact h
  | cons line rest ih =>
      refine ih ?_
      cases hline : Reading.ofLine line with
      | rejected id =>
          rw [read_rejected hardware x hline]
          exact h
      | command id payload =>
          rw [read_command hardware x hline]
          exact h.dispatch _

namespace Daemon

theorem start_assumes {s : Surroundings} {d : Daemon} {traces : List Trace}
    (hstart : start s = (.ok d, traces)) :
    d.controller.Assumes d.hardware d.config.defaultAdapter := by
  unfold start at hstart
  split at hstart
  · simp at hstart
  · rename_i config _
    simp only [Prod.mk.injEq, Except.ok.injEq] at hstart
    obtain ⟨rfl, -⟩ := hstart
    obtain ⟨hrests, hworker⟩ := registered_ready config.defaultAdapter (s.hardware config)
    have hleads := (registered config.defaultAdapter).awaken_leads (s.hardware config)
      { handler := { defaultAdapter := config.defaultAdapter } }
    have hbuilt : ((registered config.defaultAdapter).setUp (s.hardware config)).1.isSetUp = true :=
      rfl
    refine ⟨hbuilt, _, ⟨hrests.setUp (s.hardware config), ?_⟩, hleads.defaultAdapter⟩
    rw [Controller.awaken, if_pos hbuilt]
    exact hworker

def serveAll (d : Daemon) (sessions : List (Source × Sink)) : Daemon :=
  sessions.foldl (fun d (source, sink) => (d.serve source sink).1) d

theorem assumes_serveAll {d : Daemon} {adapter : String}
    (h : d.controller.Assumes d.hardware adapter) (sessions : List (Source × Sink)) :
    (d.serveAll sessions).controller.Assumes d.hardware adapter := by
  induction sessions generalizing d with
  | nil => exact h
  | cons session rest ih =>
      exact ih (d := (d.serve session.1 session.2).1)
        (Session.assumes_foldl_read (x := { controller := d.controller }) h _)

end Daemon

/-- From its start on, and whatever it has been used for, a daemon takes all requests that name no
adapter, if the adapter that is assumed fits the tool's limits, and rejects all of them otherwise:
between any two steps of the handler, whatever calls are under way, and after any sessions. -/
theorem bare_requests_need_a_fit_adapter {s : Surroundings} {d : Daemon} {traces : List Trace}
    (hstart : Daemon.start s = (.ok d, traces)) :
    let adapter := d.config.defaultAdapter
    (∃ g, d.controller.Ready d.hardware true g ∧
      ∀ schedule : List Traffic.Step, (∀ step ∈ schedule, step.keepsOpen = true) →
        (History.follow { now := { handler := g } } schedule).TreatsBare adapter) ∧
      ∀ sessions command, command.payload.isBare = true →
        (d.serveAll sessions).controller.DispatchesBare d.hardware adapter command := by
  intro adapter
  have hassumes := Daemon.start_assumes hstart
  have ⟨_, g, hready, hadapter⟩ := hassumes
  refine ⟨⟨g, hready, fun schedule hkeeps => ?_⟩, fun sessions command hbare => ?_⟩
  · have hbegin := History.assumes_begin (hready.rests.quiet g rfl).isOpen
    rw [hadapter] at hbegin
    exact (hbegin.follow hkeeps).treats
  · exact (Daemon.assumes_serveAll hassumes sessions).dispatchesBare hbare

/-- A start with this adapter assumed, and hardware that has nothing to say. -/
def assuming (defaultAdapter : String) : Surroundings where
  load := .ok { defaultAdapter }
  hardware _ := .scripted (.ok ()) fun _ => .ok (.lines [])

/-- Two calls, the second of which goes on first. -/
def twoBareCalls : List Traffic.Step :=
  [.offer ⟨1, .scan none⟩, .offer ⟨2, .getConfig "osd" none⟩, .advance 1, .advance 1,
    .advance 1, .advance 0]

theorem kitchen_takes_bare_requests :
    ∃ d traces, Daemon.start (assuming "Küche 1") = (.ok d, traces) ∧ IsFit "Küche 1" ∧
      (∃ g, (History.follow { now := { handler := g } } twoBareCalls).TreatsBare "Küche 1") ∧
      (d.serveAll [(⟨raggedInput, none⟩, {})]).controller.DispatchesBare d.hardware "Küche 1"
        ⟨1, .scan none⟩ := by
  obtain ⟨⟨g, -, htreats⟩, hdispatches⟩ :=
    bare_requests_need_a_fit_adapter (s := assuming "Küche 1") rfl
  exact ⟨_, _, rfl, by decide +kernel, ⟨g, htreats twoBareCalls (by decide)⟩,
    hdispatches [(⟨raggedInput, none⟩, {})] ⟨1, .scan none⟩ rfl⟩

/-- A name that is a byte too long for the tool. -/
def longName : String := String.ofList (List.replicate 65 'a')

def scanRequest : Source where
  bytes := "\x7b\"method\":\"scan\",\"id\":1\x7d\n".toList.map (·.toNat.toUInt8)

theorem longName_is_valid_and_drives_no_scan :
    ({ defaultAdapter := longName } : Config).validate = .ok () ∧
      ∃ d, (Daemon.start (assuming longName)).1 = .ok d ∧
        Event.calls (d.serve scanRequest {}).2.1.events = [] ∧
        (d.serve scanRequest {}).2.1.written = ["\x7b\"id\":1,\"returnValue\":false," ++
          "\"errorCode\":2,\"errorText\":\"Invalid input parameter\"\x7d"] :=
  ⟨by decide +kernel, _, rfl, by decide +kernel, by decide +kernel⟩

end CecGateway
