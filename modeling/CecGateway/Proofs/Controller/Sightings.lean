import CecGateway.Proofs.Controller.Watcher
import CecGateway.Proofs.Delivery.Registry
import CecGateway.Proofs.Serving.Answered
import CecGateway.Proofs.Traffic.Forwarding
import Mathlib.Data.List.Induction

/-!
# Which commands are logged

The watcher asks the last handler of the chain for the device at a command's destination. That is
the last that any scan has reported there (`televisions_are_sighted`).
-/

namespace CecGateway

/-! ## The registry along traffic -/

namespace Registry

theorem ofResults_append (results later : List Result) :
    ofResults (results ++ later) = later.foldl fold (ofResults results) := by
  induction later generalizing results with
  | nil => rw [List.append_nil, List.foldl_nil]
  | cons result rest ih => rw [List.append_cons, ih, ofResults_concat, List.foldl_cons]

theorem foldl_fold_of_data?_eq_none {results : List Result}
    (h : ∀ result ∈ results, result.data? = none) (r : Registry) : results.foldl fold r = r := by
  induction results with
  | nil => rfl
  | cons result rest ih =>
      obtain ⟨hresult, hrest⟩ := List.forall_mem_cons.mp h
      have hsame : r.fold result = r :=
        fold_of_none (by simp [Result.adapters?, hresult]) (by simp [Result.devices?, hresult])
      rw [List.foldl_cons, hsame, ih hrest]

end Registry

/-- All devices that scans report, in their order. -/
def Event.reported (events : List Event) : List Device :=
  (results events).flatMap fun result => result.devices?.getD []

theorem Registry.device?_ofResults (results : List Result) (address : String) :
    (ofResults results).device? address =
      ((results.flatMap fun result => result.devices?.getD []).filter
        (·.address = address)).getLast? := by
  induction results using List.reverseRecOn with
  | nil => rfl
  | append_singleton results result ih =>
      rw [ofResults_concat, List.flatMap_append, List.filter_append, List.getLast?_append, ← ih]
      cases hdevices : result.devices? with
      | none =>
          unfold fold
          simp [hdevices, device?]
      | some devices =>
          rw [device?_fold hdevices, ← List.head?_filter, List.filter_reverse, List.head?_reverse]
          simp [hdevices]

namespace Traffic

variable {t next : Traffic} {s : Step} {events : List Event} {allowed : Step → Bool}

theorem Effect.registry_eq_foldl (h : t.Effect s next events) :
    next.handler.registry = (Event.results events).foldl Registry.fold t.handler.registry := by
  cases hfinish : s.isFinish with
  | false =>
      obtain ⟨hregistry, -, hnone, -⟩ := h.frame hfinish
      rw [hregistry, Registry.foldl_fold_of_data?_eq_none hnone]
  | true =>
      cases h with
      | @answered fault? message answer p result hworker hpending hresult =>
          rw [Generic.apply_eq, Event.results_append, Event.results_announcements]
          rfl
      | unmatched => rfl
      | _ => contradiction

theorem Effect.executed_eq (h : t.Effect s next events) :
    next.handler.queue.executed = t.handler.queue.executed ++ Event.executions events := by
  cases h with
  | popped => simp [withQueue]
  | answered => simp [Generic.forget]
  | @stopped fault? calls hworker hshut hcalls =>
      rw [hcalls]
      split <;> simp [withQueue, Event.executions]
  | abandoned => simp [Event.executions, Generic.fail]
  | numbered | recorded | subscribed => exact (List.append_nil _).symm
  | _ => simp [withQueue, Generic.fail, Event.executions]

/-- The results go into the registry, and the hardware remembers its commands. -/
theorem Leads.keeps_account (h : t.Leads allowed events next) :
    next.handler.registry = (Event.results events).foldl Registry.fold t.handler.registry ∧
      next.handler.queue.executed = t.handler.queue.executed ++ Event.executions events := by
  induction h with
  | refl t => exact ⟨rfl, by simp⟩
  | step _ hstep _ ih =>
      have heffect := effect_of_step hstep
      rw [Event.results_append, List.foldl_append, ← heffect.registry_eq_foldl,
        Event.executions_append, ← List.append_assoc, ← heffect.executed_eq]
      exact ih

end Traffic

theorem Generic.handle_keeps_account (g : Generic) (hardware : Hardware) (command : Command) :
    let called := g.handle command
    let settled := called.1.settle hardware false
    let events := called.2 ++ settled.2
    settled.1.registry = (Event.results events).foldl Registry.fold g.registry ∧
      settled.1.queue.executed = g.queue.executed ++ Event.executions events :=
  ((Traffic.handle_leads { handler := g } command).trans
    (Traffic.settle_leads hardware false _).of_internal).keeps_account

/-! ## What a command reports -/

theorem Reply.devices?_interpret {payload : Payload} {lines : List String}
    {devices : List Device} :
    (interpret payload lines).devices? = some devices ↔
      (∃ adapter, payload = .scan adapter) ∧ devices = Reply.devices lines := by
  unfold interpret
  split
  · rename_i hempty
    obtain rfl := List.isEmpty_iff.mp hempty
    cases payload <;>
      simp [Result.devices?, Result.data?, Result.empty, Result.success, Payload.kind, Data.empty,
        Except.toOption, Reply.devices, records, eq_comm]
  · cases payload with
    | sendCommand adapter destination timeout command =>
        simp only [Result.devices?, Result.data?]
        cases sendCommand command lines <;> simp [Except.map, Except.toOption]
    | _ => simp [Result.devices?, Result.data?, Result.success, Result.empty, Data.empty,
        Except.toOption, eq_comm]

namespace Generic

variable {g : Generic} {hardware : Hardware} {command : Command}

theorem devices?_resultOf {p : Pending} {outcome : Outcome} {devices : List Device} :
    (resultOf p outcome).devices? = some devices ↔
      ∃ adapter lines, p.command.payload = .scan adapter ∧ outcome = .lines lines ∧
        devices = Reply.devices lines := by
  cases outcome with
  | lines lines => simp [resultOf, Reply.devices?_interpret]
  | notImplemented | failed =>
      simp [resultOf, Result.devices?, Result.data?, Result.failure, Except.toOption]

/-- Where nothing is under way, the worker opens the hardware, if it has not yet. -/
theorem Quiet.settle_idle (hquiet : g.Quiet) (hardware : Hardware) :
    ∃ fault?, (g.settle hardware false).1 =
        { g with queue := { g.queue with worker := .idle fault? } } ∧
      Event.executions (g.settle hardware false).2 = [] := by
  cases hworker : g.queue.worker with
  | starting =>
      rw [hquiet.settle_starting hworker]
      exact ⟨_, rfl, rfl⟩
  | idle fault? =>
      have hidle : g.queue.due hardware false = none :=
        due_of_idle hworker hquiet.waiting_eq_nil hquiet.isOpen
      have hsettle : g.settle hardware false = (g, []) := settle_go_of_rest _ hidle
      rw [hsettle]
      exact ⟨fault?, by rw [← hworker], rfl⟩
  | busy fault? message =>
      have hheld := hquiet.held
      simp [Queue.held, hworker] at hheld
  | stopped => exact absurd hworker hquiet.isRunning

/-- A command that finds the worker waiting has devices to report just if it is a scan that the
hardware has been called for and has answered with lines. -/
theorem Quiet.handle_reports {fault? : Option Fault} (hquiet : g.Quiet)
    (hworker : g.queue.worker = .idle fault?) (hardware : Hardware) (command : Command) :
    let called := g.handle command
    let settled := called.1.settle hardware false
    let events := called.2 ++ settled.2
    settled.1.queue.worker = .idle fault? ∧
      ∃ result, Event.completions events = [(command.ticket, result)] ∧
        ∀ devices, result.devices? = some devices ↔
          ∃ adapter native lines, command.payload = .scan adapter ∧
            Event.executions events = [native] ∧
            hardware.answer g.queue.executed native = .ok (.lines lines) ∧
            devices = Reply.devices lines := by
  intro called settled events
  cases hvalid : g.validate command.payload with
  | error why =>
      have hcalled : called = (g, [fail why command.payload.kind command]) := by
        simp [called, Generic.handle, hvalid]
      have hsettled : settled = (g, []) := by
        have hidle : g.queue.due hardware false = none :=
          due_of_idle hworker hquiet.waiting_eq_nil hquiet.isOpen
        simp only [settled, hcalled]
        exact settle_go_of_rest _ hidle
      refine ⟨by rw [hsettled]; exact hworker, .failure command.payload.kind why, ?_, ?_⟩
      · simp only [events, hcalled, hsettled]
        rfl
      · simp [events, hcalled, hsettled, fail, Result.devices?, Result.data?, Result.failure,
          Except.toOption]
  | ok =>
      have hcalled : called = (g.submitted command, []) := hquiet.handle_eq hvalid
      have hsettled : settled = (g.submitted command).settle hardware false := by
        simp only [settled, hcalled]
      rw [hquiet.settle_submitted hworker] at hsettled
      have hexecutions : Event.executions events =
          (Queue.commandFor fault? (g.nextMessage command)).toOption.toList := by
        simp [events, hcalled, hsettled]
      refine ⟨by rw [hsettled, apply_queue]; exact hworker, resultOf (g.nextPending command)
        (Queue.outcomeFor fault? (g.nextMessage command) ((g.taken (Queue.commandFor fault?
          (g.nextMessage command)).toOption.toList).queue.answer hardware)), ?_, fun devices => ?_⟩
      · simp only [events, hcalled, hsettled]
        simp
      · rw [devices?_resultOf, hexecutions]
        cases hgiven : Queue.commandFor fault? (g.nextMessage command) with
        | error fault => simp [Queue.outcomeFor, hgiven, Except.toOption]
        | ok native =>
            simp [Queue.outcomeFor, hgiven, Except.toOption, answer_taken,
              Outcome.ofAnswer_eq_lines_iff, nextPending]

end Generic

/-! ## Sightings -/

namespace Event

@[simp]
theorem sightings_append (events later : List Event) :
    sightings (events ++ later) = sightings events ++ sightings later := by
  simp [sightings]

theorem sightings_of_isDeed {events : List Event} (h : ∀ e ∈ events, e.isDeed = true) :
    sightings events = [] := by
  rw [← behind_of_isDeed h, sightings_behind]

theorem filterMap_of_not_isDeed {β : Type} {see : Event → Option β} {events : List Event}
    (h : ∀ e ∈ events, e.isDeed = false) (hsee : ∀ e, e.isDeed = false → see e = none) :
    events.filterMap see = [] :=
  List.filterMap_eq_nil_iff.mpr fun e he => hsee e (h e he)

end Event

/-- What is logged of a command when these devices have been reported: the last that has the
destination's address counts. -/
def Payload.sightings (reported : List Device) : Payload → List (String × String)
  | .sendCommand _ destination _ command =>
    if (reported.filter (·.address = destination)).getLast?.any
        fun d => d.name = "TV" && d.vendor = "LG" then
      [(destination, command.name)]
    else []
  | _ => []

theorem sightings_lgEvents (results : List Result) (payload : Payload) :
    Event.sightings (lgEvents (Registry.ofResults results).device? payload) =
      payload.sightings (results.flatMap fun result => result.devices?.getD []) := by
  cases payload with
  | sendCommand adapter destination timeout command =>
      simp only [lgEvents, Payload.sightings, Registry.device?_ofResults, Device.isLgTelevision]
      rw [apply_ite Event.sightings]
      rfl
  | _ => rfl

namespace Controller

/-- The watcher and a generic handler, which has nothing under way and keeps account of what has
been seen. -/
structure Knows (c : Controller) (seen : List Event) (g : Generic) : Prop where
  holds : c.Holds true (some g)
  quiet : g.Quiet
  waits : c.isSetUp = true → ∃ fault?, g.queue.worker = .idle fault?
  registry_eq : g.registry = .ofResults (Event.results seen)
  executed_eq : g.queue.executed = Event.executions seen

/-- What is seen of a command that is dispatched when all this has been seen before. -/
structure Sights (seen : List Event) (hardware : Hardware) (command : Command)
    (events : List Event) : Prop where
  sightings_eq : Event.sightings events = command.payload.sightings (Event.reported seen)
  /-- Its result has devices just if it is a scan that the hardware has answered with lines. -/
  completed : ∃ result, Event.completions events = [(command.ticket, result)] ∧
    ∀ devices, result.devices? = some devices ↔
      ∃ adapter native lines, command.payload = .scan adapter ∧
        Event.executions events = [native] ∧
        hardware.answer (Event.executions seen) native = .ok (.lines lines) ∧
        devices = Reply.devices lines

variable {c : Controller} {seen : List Event} {g : Generic}

theorem Knows.awaken (h : c.Knows seen g) (hardware : Hardware) :
    ∃ fault?, (c.awaken hardware g).1 =
        { g with queue := { g.queue with worker := .idle fault? } } ∧
      Event.executions (c.awaken hardware g).2 = [] := by
  unfold Controller.awaken
  split
  · rename_i hset
    obtain ⟨fault?, hworker⟩ := h.waits hset
    exact ⟨fault?, by rw [← hworker], rfl⟩
  · exact h.quiet.settle_idle hardware

theorem Knows.setUp (h : c.Knows seen g) (hardware : Hardware) :
    (c.setUp hardware).1.Knows (seen ++ (c.setUp hardware).2.2) (c.awaken hardware g).1 ∧
      Event.completions (c.setUp hardware).2.2 = [] ∧
      Event.executions (c.setUp hardware).2.2 = [] ∧
      Event.sightings (c.setUp hardware).2.2 = [] := by
  obtain ⟨fault?, hawake, hexecutions⟩ := h.awaken hardware
  obtain ⟨hquiet, hnothing⟩ := quiet_awaken h.quiet hardware c
  have hcompletions : Event.completions _ = Event.completions _ :=
    h.holds.filterMap_setUp hardware fun _ => rfl
  have hcalls : Event.executions _ = Event.executions _ :=
    h.holds.filterMap_setUp hardware fun _ => rfl
  have hsightings : Event.sightings _ = Event.sightings _ :=
    h.holds.filterMap_setUp hardware fun _ => rfl
  have hdeeds := (c.awaken_leads hardware { handler := g }).isDeed
  refine ⟨⟨.built (chain?_setUp hardware c) (h.holds.handlers_setUp hardware), hquiet, ?_, ?_, ?_⟩,
    hcompletions.trans hnothing, hcalls.trans hexecutions,
    hsightings.trans (Event.sightings_of_isDeed hdeeds)⟩
  · exact fun _ => ⟨fault?, by rw [hawake]⟩
  · rw [hawake, Event.results_append, Event.results, Event.results, hcompletions]
    simp [h.registry_eq, hnothing, Event.results]
  · rw [hawake, Event.executions_append, hcalls]
    simp [h.executed_eq, hexecutions]

theorem handlers_eq {chain : Chain} (hchain : c.chain? = some chain) :
    c.handlers = chain.handlers := by
  simp [handlers, hchain]

/-- Both handlers are asked, and the generic one sees to it. -/
theorem Holds.dispatch_watched (hholds : c.Holds true (some g)) (hardware : Hardware)
    (command : Command) :
    let awake := (c.awaken hardware g).1
    let called := awake.handle command
    let settled := called.1.settle hardware false
    let seen := awake.registry.device?
    (c.dispatch hardware command).1.Holds true (some settled.1) ∧
      (c.dispatch hardware command).1.isSetUp = true ∧
      ∃ asking, (∀ e ∈ asking, e.isDeed = false) ∧
        Event.sightings asking = Event.sightings (lgEvents seen command.payload) ∧
        (c.dispatch hardware command).2.2 =
          (c.setUp hardware).2.2 ++ (asking ++ (called.2 ++ settled.2)) := by
  intro awake called settled seen
  have hhandlers := hholds.handlers_setUp hardware
  have hdevice : (c.setUp hardware).1.device? = seen := by
    funext address
    unfold device?
    rw [handlers_eq (chain?_setUp hardware c), hhandlers]
    rfl
  have hdispatch := dispatch_eq hardware c command
  simp only [hhandlers, hdevice] at hdispatch
  rw [hdispatch]
  let record := Lookup.destination seen command.payload
  refine ⟨.built rfl rfl, rfl, .offered 0 command.payload record ::
    (lgEvents seen command.payload ++ [.offered 1 command.payload record]), ?_, ?_, ?_⟩
  · refine List.forall_mem_cons.mpr ⟨rfl, List.forall_mem_append.mpr ⟨?_, by simp [Event.isDeed]⟩⟩
    exact isDeed_lgEvents seen command.payload
  · rw [← List.singleton_append, Event.sightings_append, Event.sightings_append]
    simp [Event.sightings]
  · simp [Chain.offer, standardChain, Handler.offer, Decision.completion, awake, called, settled,
      record]

theorem Knows.dispatch (h : c.Knows seen g) (hardware : Hardware) (command : Command) :
    let events := (c.dispatch hardware command).2.2
    Sights seen hardware command events ∧
      ∃ after, (c.dispatch hardware command).1.Knows (seen ++ events) after := by
  intro events
  obtain ⟨hawake, hcompletions, hexecutions, hsightings⟩ := h.setUp hardware
  obtain ⟨hholds, hset, asking, hasking, hsighted, hevents⟩ :=
    h.holds.dispatch_watched hardware command
  let awake := (c.awaken hardware g).1
  let called := awake.handle command
  let settled := called.1.settle hardware false
  let done := called.2 ++ settled.2
  have hevents : events = (c.setUp hardware).2.2 ++ (asking ++ done) := hevents
  -- building the chain adds nothing to the account
  have hregistry : awake.registry = .ofResults (Event.results seen) := by
    rw [hawake.registry_eq, Event.results_append, Event.results, Event.results, hcompletions,
      List.map_nil, List.append_nil]
  have hexecuted : awake.queue.executed = Event.executions seen := by
    rw [hawake.executed_eq, Event.executions_append, hexecutions, List.append_nil]
  have hcompleted : Event.completions events = Event.completions done := by
    have hnone : Event.completions asking = [] := Event.filterMap_of_not_isDeed hasking
      fun e he => by cases e <;> first | rfl | contradiction
    rw [hevents, Event.completions_append, Event.completions_append, hcompletions, hnone]
    rfl
  have hgiven : Event.executions events = Event.executions done := by
    have hnone : Event.executions asking = [] := Event.filterMap_of_not_isDeed hasking
      fun e he => by cases e <;> first | rfl | contradiction
    rw [hevents, Event.executions_append, Event.executions_append, hexecutions, hnone]
    rfl
  obtain ⟨fault?, hworker⟩ := hawake.waits (by rw [isSetUp, chain?_setUp]; rfl)
  obtain ⟨hwaits, result, hresult, hreports⟩ :=
    hawake.quiet.handle_reports hworker hardware command
  obtain ⟨hquiet, -⟩ := hawake.quiet.handle hardware command
  obtain ⟨hfolded, hremembered⟩ := awake.handle_keeps_account hardware command
  refine ⟨⟨?_, result, hcompleted.trans hresult, ?_⟩, settled.1, hholds, hquiet,
    fun _ => ⟨fault?, hwaits⟩, ?_, ?_⟩
  · have hdeeds : Event.sightings done = [] := Event.sightings_of_isDeed
      (List.forall_mem_append.mpr ⟨awake.isDeed_handle command, called.1.isDeed_settle hardware _⟩)
    rw [hevents, Event.sightings_append, Event.sightings_append, hsightings, hdeeds, hsighted,
      List.nil_append, List.append_nil]
    exact hregistry ▸ sightings_lgEvents (Event.results seen) command.payload
  · rw [hgiven, ← hexecuted]
    exact hreports
  · have hresults : Event.results events = Event.results done := congrArg (·.map (·.2)) hcompleted
    rw [Event.results_append, Registry.ofResults_append, ← hregistry, hresults]
    exact hfolded
  · rw [Event.executions_append, ← hexecuted, hgiven]
    exact hremembered

/-! ## Whole runs -/

theorem useAll_append (c : Controller) (uses later : List Use) :
    c.useAll (uses ++ later) = (((c.useAll uses).1.useAll later).1,
      (c.useAll uses).2 ++ ((c.useAll uses).1.useAll later).2) := by
  induction uses generalizing c with
  | nil => rfl
  | cons u rest ih =>
      simp only [List.cons_append, useAll, ih]

theorem Holds.subscribe {watches : Bool} (h : c.Holds watches (some g)) :
    c.subscribe.Holds watches (some g.subscribe) := by
  cases h with
  | @built chain hchain hhandlers =>
      have hsubscribed : c.subscribe.chain? =
          some { chain with handlers := chain.handlers.map (·.subscribe) } := by
        simp [Controller.subscribe, hchain]
      refine .built hsubscribed ?_
      rw [hhandlers]
      cases watches <;> rfl
  | @registered built? hchain hbuildable hgeneric =>
      obtain ⟨built, rfl, rfl⟩ := Option.map_eq_some_iff.mp hgeneric.symm
      have hnone : c.subscribe.chain? = none := by simp [Controller.subscribe, hchain]
      have hdevice : c.subscribe.device? = c.device? := by
        funext address
        simp [device?, handlers, hnone, hchain]
      refine @Holds.registered _ _ _ (some built) hnone ?_ rfl
      rw [hdevice]
      exact hbuildable

theorem Knows.subscribe (h : c.Knows seen g) : c.subscribe.Knows seen g.subscribe where
  holds := h.holds.subscribe
  quiet := ⟨h.quiet.pending, h.quiet.held, h.quiet.isOpen, h.quiet.isRunning⟩
  waits hset := h.waits (by cases hchain : c.chain? <;> simp_all [Controller.subscribe, isSetUp])
  registry_eq := h.registry_eq
  executed_eq := h.executed_eq

/-- What holds of a controller and of what has been seen, and survives every use of a list, holds
after all of them. -/
theorem useAll_invariant {P : Controller → List Event → Prop} {uses : List Use}
    (hstep : ∀ u ∈ uses, ∀ c seen, P c seen → P (c.use u).1 (seen ++ (c.use u).2.events))
    (hbegin : P c seen) :
    P (c.useAll uses).1 (seen ++ (c.useAll uses).2.flatMap (·.events)) := by
  induction uses generalizing c seen with
  | nil => simpa [useAll] using hbegin
  | cons u rest ih =>
      obtain ⟨hfirst, hrest⟩ := List.forall_mem_cons.mp hstep
      have hlast := ih hrest (hfirst c seen hbegin)
      rwa [List.append_assoc] at hlast

/-- What a session has read, it has dispatched. -/
theorem foldl_read_eq_useAll (hardware : Hardware) (c : Controller)
    (requests : List (List UInt8)) :
    let x := requests.foldl (Session.read hardware) { controller := c }
    let used := c.useAll ((commandsOf requests).map (.dispatch hardware))
    x.summary.requests = requests.length ∧ x.controller = used.1 ∧
      x.events = used.2.flatMap (·.events) := by
  induction requests using List.reverseRecOn with
  | nil => exact ⟨rfl, rfl, rfl⟩
  | append_singleton requests line ih =>
      obtain ⟨hcount, hcontroller, hevents⟩ := ih
      rw [List.foldl_append, List.foldl_cons, List.foldl_nil]
      generalize requests.foldl (Session.read hardware) { controller := c } = x at *
      cases hline : Reading.ofLine line with
      | rejected id =>
          rw [Session.read_rejected hardware x hline, commandsOf_append_rejected hline]
          exact ⟨by simp [hcount], hcontroller, hevents⟩
      | command id payload =>
          rw [Session.read_command hardware x hline, commandsOf_append_command hline,
            List.map_append, useAll_append, hcount, hcontroller, hevents]
          exact ⟨by simp, rfl, by simp [useAll, use]⟩

/-- A session dispatches the commands on its lines one after another, and nothing else happens. -/
theorem serve_eq_useAll (hardware : Hardware) (c : Controller) (source : Source) (sink : Sink) :
    let requests := source.lines.filter (!isBlankLine ·)
    let used := c.useAll ((commandsOf requests).map (.dispatch hardware))
    (CecGateway.serve hardware c source sink).controller = used.1 ∧
      (CecGateway.serve hardware c source sink).events = used.2.flatMap (·.events) :=
  (foldl_read_eq_useAll hardware c (source.lines.filter (!isBlankLine ·))).2

theorem Knows.use (h : c.Knows seen g) (u : Use) :
    ∃ after, (c.use u).1.Knows (seen ++ (c.use u).2.events) after := by
  cases u with
  | build hardware =>
      obtain ⟨hawake, -⟩ := h.setUp hardware
      exact ⟨_, hawake⟩
  | dispatch hardware command => exact (h.dispatch hardware command).2
  | subscribe => exact ⟨_, by simpa [Controller.use] using h.subscribe⟩
  | session hardware source sink =>
      obtain ⟨hcontroller, hevents⟩ := serve_eq_useAll hardware c source sink
      simp only [Controller.use, hcontroller, hevents]
      refine useAll_invariant (P := fun c seen => ∃ g, c.Knows seen g) ?_ ⟨g, h⟩
      refine List.forall_mem_map.mpr fun command _ c seen hknows => ?_
      obtain ⟨g, hknows⟩ := hknows
      exact (hknows.dispatch hardware command).2

theorem Knows.useAll (h : c.Knows seen g) (uses : List Use) :
    ∃ after, (c.useAll uses).1.Knows (seen ++ (c.useAll uses).2.flatMap (·.events)) after :=
  useAll_invariant (P := fun c seen => ∃ g, c.Knows seen g)
    (fun u _ _ _ ⟨_, hknows⟩ => hknows.use u) ⟨g, h⟩

theorem knows_registered (defaultAdapter : String) :
    (Daemon.registered defaultAdapter).Knows [] { defaultAdapter } where
  holds := (Daemon.registered_rests defaultAdapter).holds
  quiet := (Daemon.registered_rests defaultAdapter).quiet _ rfl
  waits := nofun
  registry_eq := rfl
  executed_eq := rfl

end Controller

/-- Whatever has been dispatched before, a command is logged just if it is sent to an address where
the last device that any scan has reported is a television by LG, and then once; nothing else is
logged. A session is no more than its commands dispatched one after another. -/
theorem televisions_are_sighted (defaultAdapter : String) (uses : List Controller.Use) :
    let used := (Daemon.registered defaultAdapter).useAll uses
    let seen := used.2.flatMap (·.events)
    (∀ hardware command,
      Controller.Sights seen hardware command (used.1.dispatch hardware command).2.2) ∧
    (∀ hardware, Event.sightings (used.1.setUp hardware).2.2 = []) ∧
    ∀ hardware source sink,
      let requests := source.lines.filter (!isBlankLine ·)
      let inTurn := used.1.useAll ((commandsOf requests).map (.dispatch hardware))
      (serve hardware used.1 source sink).controller = inTurn.1 ∧
        (serve hardware used.1 source sink).events = inTurn.2.flatMap (·.events) := by
  intro used seen
  obtain ⟨g, hknows⟩ := (Controller.knows_registered defaultAdapter).useAll uses
  refine ⟨fun hardware command => (hknows.dispatch hardware command).1, fun hardware => ?_,
    fun hardware source sink => Controller.serve_eq_useAll hardware used.1 source sink⟩
  obtain ⟨-, -, -, hsightings⟩ := hknows.setUp hardware
  exact hsightings

end CecGateway
