import CecGateway.Proofs.Delivery.Registry
import CecGateway.Proofs.Traffic.Course
import CecGateway.Proofs.Traffic.Forwarding
import CecGateway.Proofs.Traffic.Submission

/-!
# Queueing changes nothing

No result of a command that neither lists adapters nor scans changes the registry, so such a command
is valid or not whenever it is looked at. Validation runs ahead of the worker, but the worker takes
the valid commands in the order of their calls. So what comes of a list of them does not depend on
how the calls and the worker take turns (`queueing_changes_nothing`).
-/

namespace CecGateway

/-- Commands whose results go into the registry. -/
def Kind.fillsRegistry : Kind → Bool
  | .listAdapters | .scan => true
  | .sendCommand | .getConfig | .setConfig => false

theorem Result.data?_of_isOf {kind : Kind} {result : Result} (h : result.IsOf kind)
    (hkind : kind.fillsRegistry = false) :
    result.adapters? = none ∧ result.devices? = none := by
  cases houtcome : result.outcome with
  | error why => simp [adapters?, devices?, data?, houtcome, Except.toOption]
  | ok data =>
      rw [← h.data_kind_eq data houtcome] at hkind
      cases data <;> first
        | contradiction
        | simp [adapters?, devices?, data?, houtcome, Except.toOption]

theorem Generic.apply_resultOf {p : Pending} (hkind : p.kind = p.command.payload.kind)
    (hfills : p.command.payload.kind.fillsRegistry = false) (g : Generic) (outcome : Outcome) :
    g.apply (resultOf p outcome) = (g, []) := by
  obtain ⟨hadapters, hdevices⟩ :=
    Result.data?_of_isOf (Generic.isOf_resultOf hkind outcome) hfills
  rw [Generic.apply_eq, Registry.fold_of_none hadapters hdevices, announcements, hdevices]

/-! ## What comes of a list of commands -/

/-- What the hardware has executed, and the results in their order. -/
structure Tally where
  executed : List NativeCommand
  results : List (Nat × Result) := []

/-- One more command is handed to the hardware, unless it has not been opened. -/
def Tally.add (hardware : Hardware) (fault? : Option Fault) (defaultAdapter : String)
    (t : Tally) (command : Command) : Tally :=
  let record : Pending := ⟨0, command.payload.kind, command⟩
  match Queue.commandFor fault? (.ofPayload 0 defaultAdapter command.payload) with
  | .ok native =>
    ⟨t.executed ++ [native], t.results ++ [(command.ticket,
      Generic.resultOf record (.ofAnswer (hardware.answer t.executed native)))]⟩
  | .error fault =>
    ⟨t.executed, t.results ++ [(command.ticket, Generic.resultOf record (.failed fault))]⟩

namespace Generic

variable (hardware : Hardware) (g : Generic)

def accepts (command : Command) : Bool := (g.validate command.payload).isOk

/-- The fault with which the hardware has been opened, or will be. -/
def openingFault : Option Fault :=
  match g.queue.worker with
  | .idle fault? => fault?
  | _ => hardware.fault?

def tally (commands : List Command) : Tally :=
  commands.foldl (Tally.add hardware (g.openingFault hardware) g.defaultAdapter)
    ⟨g.queue.executed, []⟩

/-- The commands that are not valid, each with its failure. -/
def rejections (commands : List Command) : List (Nat × Result) :=
  commands.filterMap fun command =>
    match g.validate command.payload with
    | .ok () => none
    | .error why => some (command.ticket, .failure command.payload.kind why)

/-- The call that opens the hardware, if the worker has made it since. -/
def openings (after : Generic) : List Call :=
  if g.queue.worker = .starting ∧ after.queue.worker ≠ .starting then [.opened] else []

/-- What is to come of a list of commands. `isQueued` tells the valid ones by their tickets. -/
structure Fate (commands : List Command) (isQueued : Nat → Bool) (after : Generic)
    (events : List Event) : Prop where
  handler_eq : after = { g with
    nextSeq := g.nextSeq + UInt64.ofNat (commands.filter (g.accepts ·)).length
    queue := ⟨[], false, .idle (g.openingFault hardware),
      (g.tally hardware (commands.filter (g.accepts ·))).executed⟩ }
  calls_eq : ∃ since,
    (g.tally hardware (commands.filter (g.accepts ·))).executed = g.queue.executed ++ since ∧
      Event.calls events = g.openings after ++ since.map .executed
  queued_eq : (Event.completions events).filter (isQueued ·.1) =
    (g.tally hardware (commands.filter (g.accepts ·))).results
  rejected_eq : (Event.completions events).filter (!isQueued ·.1) = g.rejections commands

end Generic

namespace Caller

/-- The command of a call that has not recorded it yet. -/
def unrecorded? : Caller → Option Command
  | ⟨command, .validated⟩ | ⟨command, .numbered _⟩ => some command
  | ⟨_, .recorded _⟩ => none

/-- The message of a call that has recorded its command and not submitted it. -/
def message? (g : Generic) : Caller → Option Message
  | ⟨command, .recorded seq⟩ => some (g.messageOf seq command.payload)
  | _ => none

def isNumbered : Caller → Bool
  | ⟨_, .numbered _⟩ => true
  | _ => false

end Caller

/-! ## What every turn keeps -/

namespace Generic

/-- Nothing has changed of which validation or messages depend, nor who observes. -/
structure Resembles (after g : Generic) : Prop where
  registry_eq : after.registry = g.registry
  defaultAdapter_eq : after.defaultAdapter = g.defaultAdapter
  observers_eq : after.observers = g.observers

variable {hardware : Hardware} {g after next : Generic} {isQueued : Nat → Bool}
  {answered : List Command} {seen events : List Event}

theorem Resembles.validate_eq (h : after.Resembles g) (payload : Payload) :
    after.validate payload = g.validate payload := by
  simp only [validate, h.registry_eq, h.defaultAdapter_eq]

theorem Resembles.messageOf_eq (h : after.Resembles g) (seq : Nat) (payload : Payload) :
    after.messageOf seq payload = g.messageOf seq payload := by
  simp only [messageOf, h.defaultAdapter_eq]

theorem accepts_of_ok {command : Command} (h : g.validate command.payload = .ok ()) :
    g.accepts command = true := by
  rw [accepts, h]
  rfl

theorem accepts_of_error {command : Command} {why : Failure}
    (h : g.validate command.payload = .error why) : g.accepts command = false := by
  rw [accepts, h]
  rfl

/-- The worker has carried out some of the valid commands and is at the next, if at any. -/
structure Serves (hardware : Hardware) (g : Generic) (isQueued : Nat → Bool)
    (answered : List Command) (after : Generic) (seen : List Event) : Prop where
  running : after.queue.worker ≠ .stopped
  starting : after.queue.worker = .starting →
    g.queue.worker = .starting ∧ answered = [] ∧ after.queue.executed = g.queue.executed
  idle : ∀ fault?, after.queue.worker = .idle fault? →
    fault? = g.openingFault hardware ∧
      after.queue.executed = (g.tally hardware answered).executed
  busy : ∀ fault? message, after.queue.worker = .busy fault? message →
    fault? = g.openingFault hardware ∧ ∃ p rest, after.pending = p :: rest ∧
      after.queue.executed = (g.tally hardware (answered ++ [p.command])).executed
  queued_eq : (Event.completions seen).filter (isQueued ·.1) = (g.tally hardware answered).results
  calls_eq : ∃ since, after.queue.executed = g.queue.executed ++ since ∧
    Event.calls seen = g.openings after ++ since.map .executed

/-- A call leaves the worker alone. -/
theorem Serves.mono (h : Serves hardware g isQueued answered after seen)
    (hworker : next.queue.worker = after.queue.worker)
    (hexecuted : next.queue.executed = after.queue.executed)
    (hpending : after.pending <+: next.pending)
    (hqueued : (Event.completions events).filter (isQueued ·.1) = [])
    (hcalls : Event.calls events = []) :
    Serves hardware g isQueued answered next (seen ++ events) := by
  obtain ⟨hrunning, hstarting, hidle, hbusy, hresults, hmade⟩ := h
  refine ⟨?_, ?_, ?_, ?_, ?_, ?_⟩
  · rwa [hworker]
  · rwa [hworker, hexecuted]
  · rwa [hworker, hexecuted]
  · rw [hworker, hexecuted]
    intro fault? message hbusied
    obtain ⟨hfault, p, rest, hhead, hgiven⟩ := hbusy fault? message hbusied
    obtain ⟨later, hlater⟩ := hpending
    exact ⟨hfault, p, rest ++ later, by rw [← hlater, hhead, List.cons_append], hgiven⟩
  · rw [Event.completions_append, List.filter_append, hqueued, List.append_nil, hresults]
  · rw [hexecuted, Event.calls_append, hcalls, List.append_nil, openings, hworker]
    exact hmade

theorem tally_concat (hardware : Hardware) (g : Generic) (commands : List Command)
    (command : Command) :
    g.tally hardware (commands ++ [command]) = (g.tally hardware commands).add hardware
      (g.openingFault hardware) g.defaultAdapter command := by
  rw [tally, List.foldl_append]
  rfl

/-- The hardware is given what the message asks for, whatever its number is. -/
theorem executed_tally_concat (hardware : Hardware) (g : Generic) (commands : List Command)
    (p : Pending) :
    (g.tally hardware (commands ++ [p.command])).executed =
      (g.tally hardware commands).executed ++ (Queue.commandFor (g.openingFault hardware)
        (g.messageOf p.seq p.command.payload)).toOption.toList := by
  have hnumber : Queue.commandFor (g.openingFault hardware)
      (g.messageOf p.seq p.command.payload) = Queue.commandFor (g.openingFault hardware)
        (.ofPayload 0 g.defaultAdapter p.command.payload) := rfl
  rw [tally_concat, Tally.add, hnumber]
  cases Queue.commandFor (g.openingFault hardware)
    (.ofPayload 0 g.defaultAdapter p.command.payload) <;> simp [Except.toOption]

/-- Its answer is the result that the tally has, if the hardware has executed the commands before
and nothing else. -/
theorem results_tally_concat (hardware : Hardware) (g : Generic) (commands : List Command)
    {p : Pending} (hkind : p.kind = p.command.payload.kind) {q : Queue}
    (hexecuted : q.executed = (g.tally hardware (commands ++ [p.command])).executed) :
    (g.tally hardware (commands ++ [p.command])).results =
      (g.tally hardware commands).results ++ [(p.command.ticket,
        resultOf p (Queue.outcomeFor (g.openingFault hardware)
          (g.messageOf p.seq p.command.payload) (q.answer hardware)))] := by
  have hrecord (outcome : Outcome) :
      resultOf ⟨0, p.command.payload.kind, p.command⟩ outcome = resultOf p outcome := by
    cases outcome <;> simp [resultOf, hkind]
  rw [executed_tally_concat] at hexecuted
  have hnumber : Queue.commandFor (g.openingFault hardware)
      (g.messageOf p.seq p.command.payload) = Queue.commandFor (g.openingFault hardware)
        (.ofPayload 0 g.defaultAdapter p.command.payload) := rfl
  rw [hnumber] at hexecuted
  rw [tally_concat, Tally.add, Queue.outcomeFor, hnumber]
  cases hgiven : Queue.commandFor (g.openingFault hardware)
      (.ofPayload 0 g.defaultAdapter p.command.payload) with
  | error fault => simp [hrecord]
  | ok native =>
      rw [hgiven] at hexecuted
      simp [hrecord, Queue.answer, hexecuted, Except.toOption]

theorem Serves.started (h : Serves hardware g isQueued answered after seen)
    (hworker : after.queue.worker = .starting) :
    Serves hardware g isQueued answered
      { after with queue := { after.queue with worker := .idle hardware.fault? } }
      (seen ++ [.call .opened]) := by
  obtain ⟨hstarting, rfl, hexecuted⟩ := h.starting hworker
  obtain ⟨since, hsince, hmade⟩ := h.calls_eq
  have hnone : since = [] := by simpa [hexecuted] using hsince
  refine ⟨by simp, by simp, fun fault? hidle => ?_, by simp, ?_, [], by simpa using hexecuted, ?_⟩
  · obtain rfl := Worker.idle.inj hidle
    exact ⟨by simp [openingFault, hstarting], hexecuted⟩
  · rw [Event.completions_append, List.filter_append, h.queued_eq]
    rfl
  · rw [Event.calls_append, hmade, hnone]
    simp [openings, hstarting, hworker]

theorem Serves.popped (h : Serves hardware g isQueued answered after seen)
    {fault? : Option Fault} (hworker : after.queue.worker = .idle fault?) {p : Pending}
    {rest : List Pending} (hpending : after.pending = p :: rest) {waiting : List Message}
    {given : List NativeCommand}
    (hgiven : given = (Queue.commandFor fault?
      (g.messageOf p.seq p.command.payload)).toOption.toList) :
    Serves hardware g isQueued answered
      { after with queue := { after.queue with
          waiting, worker := .busy fault? (g.messageOf p.seq p.command.payload)
          executed := after.queue.executed ++ given } }
      (seen ++ given.map fun command => .call (.executed command)) := by
  obtain ⟨rfl, hexecuted⟩ := h.idle fault? hworker
  obtain ⟨since, hsince, hmade⟩ := h.calls_eq
  refine ⟨by simp, by simp, by simp, fun fault? message hbusy => ?_, ?_, since ++ given, ?_, ?_⟩
  · obtain ⟨rfl, -⟩ := Worker.busy.inj hbusy
    exact ⟨rfl, p, rest, hpending, by rw [executed_tally_concat, ← hgiven, hexecuted]⟩
  · rw [Event.completions_append, Event.completions_map_executed, List.append_nil, h.queued_eq]
  · simp [hsince]
  · have hcalls : Event.calls (given.map fun command => .call (.executed command)) =
        given.map .executed := by
      simp [Event.calls, List.filterMap_map, List.filterMap_eq_map']
    rw [Event.calls_append, hmade, hcalls]
    simp [openings, hworker]

theorem Serves.finished (h : Serves hardware g isQueued answered after seen)
    {fault? : Option Fault} {p : Pending} {rest : List Pending}
    (hworker : after.queue.worker = .busy fault? (g.messageOf p.seq p.command.payload))
    (hpending : after.pending = p :: rest) (hkind : p.kind = p.command.payload.kind)
    (hqueued : isQueued p.command.ticket = true) :
    Serves hardware g isQueued (answered ++ [p.command])
      { after with
        pending := rest
        queue := { after.queue with worker := .idle fault? } }
      (seen ++ [.completed p.command.ticket (resultOf p (Queue.outcomeFor fault?
        (g.messageOf p.seq p.command.payload) (after.queue.answer hardware)))]) := by
  obtain ⟨rfl, head, others, hhead, hexecuted⟩ := h.busy fault? _ hworker
  obtain ⟨rfl, rfl⟩ := List.cons.inj (hpending.symm.trans hhead)
  obtain ⟨since, hsince, hmade⟩ := h.calls_eq
  refine ⟨by simp, by simp, fun fault? hidle => ?_, by simp, ?_, since, hsince, ?_⟩
  · obtain rfl := Worker.idle.inj hidle
    exact ⟨rfl, hexecuted⟩
  · rw [Event.completions_append, List.filter_append, h.queued_eq,
      results_tally_concat hardware g answered hkind hexecuted]
    simp [hqueued]
  · rw [Event.calls_append, Event.calls_completed, List.append_nil, hmade]
    simp [openings, hworker]

end Generic

namespace Traffic

variable {hardware : Hardware} {g : Generic} {isQueued : Nat → Bool} {done : List Command}
  {t next : Traffic} {seen events : List Event}

/-- Of the commands so far, the valid ones have been carried out, or are pending in the order of
their calls, and so are their messages. -/
structure LinesUp (hardware : Hardware) (g : Generic) (isQueued : Nat → Bool)
    (done : List Command) (t : Traffic) (seen : List Event) : Prop where
  resembles : t.handler.Resembles g
  isOpen : t.handler.queue.isShut = false
  offered : ∀ command ∈ t.offered, command.payload.kind.fillsRegistry = false ∧
    isQueued command.ticket = g.accepts command
  length_callers_le : t.callers.length ≤ 1
  accepted_eq : t.offered.filter (g.accepts ·) =
    done ++ t.handler.pending.map (·.command) ++ t.callers.filterMap (·.unrecorded?)
  messages_eq : t.handler.queue.held ++ t.callers.filterMap (·.message? g) =
    t.handler.pending.map fun p => g.messageOf p.seq p.command.payload
  kinds : ∀ p ∈ t.handler.pending, p.kind = p.command.payload.kind
  nextSeq_eq : t.handler.nextSeq = g.nextSeq +
    UInt64.ofNat (done.length + t.handler.pending.length + t.callers.countP (·.isNumbered))
  rejected_eq : (Event.completions seen).filter (!isQueued ·.1) = g.rejections t.offered
  serves : g.Serves hardware isQueued done t.handler seen

theorem LinesUp.offer (h : t.LinesUp hardware g isQueued done seen) {command : Command}
    (hcallers : t.callers = []) (hkind : command.payload.kind.fillsRegistry = false)
    (hqueued : isQueued command.ticket = g.accepts command)
    (heffect : t.Effect (.offer command) next events) :
    next.LinesUp hardware g isQueued done (seen ++ events) := by
  have hoffered : ∀ other ∈ t.offered ++ [command],
      other.payload.kind.fillsRegistry = false ∧ isQueued other.ticket = g.accepts other :=
    List.forall_mem_append.mpr ⟨h.offered, List.forall_mem_singleton.mpr ⟨hkind, hqueued⟩⟩
  cases heffect with
  | @rejected command why hinvalid =>
      rw [h.resembles.validate_eq] at hinvalid
      have hrejected := Generic.accepts_of_error hinvalid
      rw [hrejected] at hqueued
      refine ⟨h.resembles, h.isOpen, hoffered, h.length_callers_le, ?_, h.messages_eq, h.kinds,
        h.nextSeq_eq, ?_, h.serves.mono rfl rfl (List.prefix_refl _) ?_ rfl⟩
      · rw [List.filter_append, h.accepted_eq]
        simp [hrejected]
      · rw [Event.completions_append, List.filter_append, h.rejected_eq]
        simp [Generic.rejections, hinvalid, Generic.fail, hqueued]
      · simp [Generic.fail, hqueued]
  | @entered command hvalid =>
      rw [h.resembles.validate_eq] at hvalid
      have haccepted := Generic.accepts_of_ok hvalid
      refine ⟨h.resembles, h.isOpen, hoffered, by simp [hcallers], ?_, ?_, h.kinds, ?_, ?_,
        h.serves.mono rfl rfl (List.prefix_refl _) rfl rfl⟩
      · rw [List.filter_append, h.accepted_eq]
        simp [hcallers, haccepted, Caller.unrecorded?]
      · rw [← h.messages_eq]
        simp [hcallers, Caller.message?]
      · rw [h.nextSeq_eq]
        simp [hcallers, Caller.isNumbered]
      · rw [List.append_nil, h.rejected_eq]
        simp [Generic.rejections, hvalid]

theorem LinesUp.advance (h : t.LinesUp hardware g isQueued done seen) {place : Nat}
    (heffect : t.Effect (.advance place) next events) :
    next.LinesUp hardware g isQueued done (seen ++ events) := by
  have hle := h.length_callers_le
  have haccepted := h.accepted_eq
  have hmessages := h.messages_eq
  have hseq := h.nextSeq_eq
  cases heffect with
  | @numbered before after command hcallers =>
      obtain ⟨rfl, rfl⟩ := eq_nil_of_length_le_one (hcallers ▸ hle)
      refine ⟨⟨h.resembles.1, h.resembles.2, h.resembles.3⟩, h.isOpen, h.offered, by simp, ?_, ?_,
        h.kinds, ?_, by simpa using h.rejected_eq,
        h.serves.mono rfl rfl (List.prefix_refl _) rfl rfl⟩
      · simpa [hcallers, Caller.unrecorded?, Generic.allocate] using haccepted
      · simpa [hcallers, Caller.message?, Generic.allocate] using hmessages
      · simp [Generic.allocate, hseq, hcallers, Caller.isNumbered, UInt64.add_assoc]
  | @recorded before after command seq hcallers =>
      obtain ⟨rfl, rfl⟩ := eq_nil_of_length_le_one (hcallers ▸ hle)
      refine ⟨⟨h.resembles.1, h.resembles.2, h.resembles.3⟩, h.isOpen, h.offered, by simp, ?_, ?_,
        ?_, ?_, by simpa using h.rejected_eq,
        h.serves.mono rfl rfl (List.prefix_append _ _) rfl rfl⟩
      · simpa [hcallers, Caller.unrecorded?, Generic.record] using haccepted
      · simpa [hcallers, Caller.message?, Generic.record] using hmessages
      · exact List.forall_mem_append.mpr ⟨h.kinds, List.forall_mem_singleton.mpr rfl⟩
      · simpa [Generic.record, hcallers, Caller.isNumbered, Nat.add_assoc] using hseq
  | @submitted before after command seq hcallers hopen =>
      obtain ⟨rfl, rfl⟩ := eq_nil_of_length_le_one (hcallers ▸ hle)
      refine ⟨⟨h.resembles.1, h.resembles.2, h.resembles.3⟩, h.isOpen, h.offered, by simp, ?_, ?_,
        h.kinds, ?_, by simpa [withQueue] using h.rejected_eq,
        h.serves.mono rfl rfl (List.prefix_refl _) rfl rfl⟩
      · simpa [hcallers, Caller.unrecorded?, withQueue] using haccepted
      · rw [h.resembles.messageOf_eq]
        simpa [hcallers, Caller.message?, withQueue, Queue.held_append] using hmessages
      · simpa [hcallers, Caller.isNumbered, withQueue] using hseq
  | refused hcallers hshut => simp [h.isOpen] at hshut
  | bereft hcallers hshut => simp [h.isOpen] at hshut

/-- The first pending command is the one whose message the worker has or takes next. -/
theorem LinesUp.exists_head (h : t.LinesUp hardware g isQueued done seen) {message : Message}
    {waiting : List Message} (hheld : t.handler.queue.held = message :: waiting) :
    ∃ p rest, t.handler.pending = p :: rest ∧ message = g.messageOf p.seq p.command.payload ∧
      waiting ++ t.callers.filterMap (·.message? g) =
        rest.map (fun p => g.messageOf p.seq p.command.payload) ∧
      t.handler.pending? message.seq = some p ∧ p.command.payload.kind.fillsRegistry = false ∧
      isQueued p.command.ticket = true := by
  have hmessages := h.messages_eq
  rw [hheld, List.cons_append, eq_comm, List.map_eq_cons_iff] at hmessages
  obtain ⟨p, rest, hpending, rfl, hrest⟩ := hmessages
  have hmem : p.command ∈ t.offered.filter (g.accepts ·) := by
    rw [h.accepted_eq, hpending]
    simp
  obtain ⟨hoffered, haccepted⟩ := List.mem_filter.mp hmem
  obtain ⟨hkind, hqueued⟩ := h.offered p.command hoffered
  have hfound : t.handler.pending? (g.messageOf p.seq p.command.payload).seq = some p := by
    simp [Generic.pending?, hpending, Generic.messageOf, Message.ofPayload]
  exact ⟨p, rest, hpending, rfl, hrest.symm, hfound, hkind, hqueued.trans haccepted⟩

theorem LinesUp.finish (h : t.LinesUp hardware g isQueued done seen) {fault? : Option Fault}
    {message : Message} (hworker : t.handler.queue.worker = .busy fault? message) {p : Pending}
    (hpending : t.handler.pending? message.seq = some p) {result : Result}
    (hresult : result = Generic.resultOf p
      (Queue.outcomeFor fault? message (t.handler.queue.answer hardware))) :
    let told := ((t.afterwards fault?).forget message.seq).apply result
    LinesUp hardware g isQueued (done ++ [p.command]) { t with handler := told.1 }
      (seen ++ (told.2 ++ [.completed p.command.ticket result])) := by
  have hheld : t.handler.queue.held = message :: t.handler.queue.waiting := by
    simp [Queue.held, hworker]
  obtain ⟨head, rest, hhead, rfl, hwaiting, hfound, hfills, hqueued⟩ := h.exists_head hheld
  obtain rfl := Option.some_inj.mp (hpending.symm.trans hfound)
  have hkinds := h.kinds
  rw [hhead] at hkinds
  obtain ⟨hkind, hothers⟩ := List.forall_mem_cons.mp hkinds
  have hforget : (t.afterwards fault?).forget (g.messageOf p.seq p.command.payload).seq =
      { t.handler with
        pending := rest
        queue := { t.handler.queue with worker := .idle fault? } } := by
    simp [Generic.forget, afterwards, hhead, Generic.messageOf, Message.ofPayload]
  rw [hforget, hresult, Generic.apply_resultOf hkind hfills]
  refine ⟨⟨h.resembles.1, h.resembles.2, h.resembles.3⟩, h.isOpen, h.offered, h.length_callers_le,
    ?_, ?_, hothers, ?_, ?_, h.serves.finished hworker hhead hkind hqueued⟩
  · simp [h.accepted_eq, hhead]
  · simpa [Queue.held] using hwaiting
  · rw [h.nextSeq_eq, hhead]
    simp [Nat.add_comm, Nat.add_left_comm]
  · rw [Event.completions_append, List.filter_append, h.rejected_eq]
    simp [hqueued]

theorem LinesUp.work (h : t.LinesUp hardware g isQueued done seen) {step : Queue.Step}
    (hdue : t.handler.queue.due hardware false = some step)
    (heffect : t.Effect (.work step) next events) :
    ∃ others, next.LinesUp hardware g isQueued others (seen ++ events) := by
  cases heffect with
  | @started fault? opening hworker hopening =>
      have hstart : opening = hardware.opening := by
        simpa [Queue.due, hworker, eq_comm] using hdue
      obtain rfl : hardware.fault? = fault? := by
        cases fault? <;> simp [Hardware.fault?, ← hstart, hopening]
      refine ⟨done, ⟨h.resembles.1, h.resembles.2, h.resembles.3⟩, h.isOpen, h.offered,
        h.length_callers_le, h.accepted_eq, ?_, h.kinds, h.nextSeq_eq, ?_, h.serves.started hworker⟩
      · simpa [withQueue, Queue.held, hworker] using h.messages_eq
      · rw [Event.completions_append, List.filter_append, h.rejected_eq]
        exact List.append_nil _
  | @popped fault? message waiting given hworker hwaiting hopen hgiven =>
      have hheld : t.handler.queue.held = message :: waiting := by
        simp [Queue.held, hworker, hwaiting]
      obtain ⟨p, rest, hhead, rfl, -⟩ := h.exists_head hheld
      refine ⟨done, ⟨h.resembles.1, h.resembles.2, h.resembles.3⟩, h.isOpen, h.offered,
        h.length_callers_le, h.accepted_eq, ?_, h.kinds, h.nextSeq_eq, ?_,
        h.serves.popped hworker hhead hgiven⟩
      · have hmessages := h.messages_eq
        rw [hheld] at hmessages
        exact hmessages
      · rw [Event.completions_append, Event.completions_map_executed, List.append_nil]
        exact h.rejected_eq
  | @answered fault? message answer p result hworker hpending hresult =>
      obtain rfl : t.handler.queue.answer hardware = answer := by
        simpa [Queue.due, hworker] using hdue
      exact ⟨_, h.finish hworker hpending hresult⟩
  | @unmatched fault? message answer hworker hpending =>
      have hheld : t.handler.queue.held = message :: t.handler.queue.waiting := by
        simp [Queue.held, hworker]
      obtain ⟨p, rest, -, -, -, hfound, -⟩ := h.exists_head hheld
      simp [hpending] at hfound
  | stopped hworker hshut => simp [h.isOpen] at hshut

theorem linesUp_begin (hardware : Hardware) (isQueued : Nat → Bool) (hquiet : g.Quiet) :
    LinesUp hardware g isQueued [] { handler := g } [] where
  resembles := ⟨rfl, rfl, rfl⟩
  isOpen := hquiet.isOpen
  offered := by simp
  length_callers_le := by simp
  accepted_eq := by simp [hquiet.pending]
  messages_eq := by simp [hquiet.held, hquiet.pending]
  kinds := by simp [hquiet.pending]
  nextSeq_eq := by simp [hquiet.pending]
  rejected_eq := rfl
  serves := by
    refine ⟨hquiet.isRunning, fun hstarting => ⟨hstarting, rfl, rfl⟩, fun fault? hidle => ?_,
      fun fault? message hbusy => ?_, rfl, [], by simp, ?_⟩
    · have hworker : g.queue.worker = .idle fault? := hidle
      exact ⟨by simp only [Generic.openingFault, hworker], rfl⟩
    · have hworker : g.queue.worker = .busy fault? message := hbusy
      have hheld := hquiet.held
      simp only [Queue.held, hworker, reduceCtorEq] at hheld
    · simp [Generic.openings]

/-- When all has been submitted and the worker waits, every valid command has been carried out. -/
theorem LinesUp.fate (h : t.LinesUp hardware g isQueued done seen) (hquiet : g.Quiet)
    (hcallers : t.callers = []) (hdue : t.handler.queue.due hardware false = none) :
    g.Fate hardware t.offered isQueued t.handler seen := by
  obtain ⟨fault?, hworker, hwaiting⟩ := Queue.idle_of_due hdue h.isOpen h.serves.running
  have hpending : t.handler.pending = [] := by
    simpa [Queue.held, hworker, hwaiting, hcallers] using h.messages_eq.symm
  have haccepted : t.offered.filter (g.accepts ·) = done := by
    simpa [hpending, hcallers] using h.accepted_eq
  obtain ⟨rfl, hexecuted⟩ := h.serves.idle fault? hworker
  have hnumber : t.handler.nextSeq = g.nextSeq + UInt64.ofNat done.length := by
    simpa [hpending, hcallers] using h.nextSeq_eq
  have hqueue : t.handler.queue =
      ⟨[], false, .idle (g.openingFault hardware), (g.tally hardware done).executed⟩ := by
    rw [← hwaiting, ← h.isOpen, ← hworker, ← hexecuted]
  obtain ⟨since, hsince, hcalls⟩ := h.serves.calls_eq
  refine ⟨?_, ⟨since, ?_, hcalls⟩, ?_, h.rejected_eq⟩
  · rw [haccepted, ← hnumber, ← hqueue, hquiet.pending, ← hpending, ← h.resembles.registry_eq,
      ← h.resembles.observers_eq, ← h.resembles.defaultAdapter_eq]
  · rw [haccepted, ← hexecuted, hsince]
  · rw [haccepted, h.serves.queued_eq]

end Traffic

/-! ## Every way to take turns -/

namespace Submission

variable {hardware : Hardware} {g : Generic} {isQueued : Nat → Bool} {commands : List Command}

theorem run_linesUp (hquiet : g.Quiet)
    (hcommands : ∀ command ∈ commands, command.payload.kind.fillsRegistry = false ∧
      isQueued command.ticket = g.accepts command) (turns : List Turn) :
    let last := (begin g commands).run hardware turns
    ∃ done, last.1.traffic.LinesUp hardware g isQueued done last.2 ∧
      last.1.traffic.offered ++ last.1.left = commands := by
  intro last
  let Follows (s : Submission) (seen : List Event) : Prop :=
    ∃ done, s.traffic.LinesUp hardware g isQueued done seen ∧ s.traffic.offered ++ s.left = commands
  have hbegin : Follows (begin g commands) [] :=
    ⟨[], Traffic.linesUp_begin hardware isQueued hquiet, rfl⟩
  have hstep : ∀ s next seen events, Follows s seen → s.Effect hardware next events →
      Follows next (seen ++ events) := by
    rintro s next seen events ⟨done, hlines, hleft⟩ heffect
    cases heffect with
    | @offered command left traffic events hcallers hhead heffect =>
        obtain ⟨hkind, hqueued⟩ := hcommands command (by simp [← hleft, hhead])
        refine ⟨done, hlines.offer hcallers hkind hqueued heffect, ?_⟩
        rw [heffect.offered, ← hleft, hhead]
        simp [Traffic.Step.offers]
    | advanced heffect =>
        refine ⟨done, hlines.advance heffect, ?_⟩
        rw [heffect.offered, ← hleft]
        simp [Traffic.Step.offers]
    | worked hdue heffect =>
        obtain ⟨others, hothers⟩ := hlines.work hdue heffect
        refine ⟨others, hothers, ?_⟩
        rw [heffect.offered, ← hleft]
        simp [Traffic.Step.offers]
  exact run_invariant hstep hbegin turns

theorem Finished.fate {s : Submission} {events : List Event} {turns : List Turn}
    (hfinished : Finished hardware s) (hrun : (begin g commands).run hardware turns = (s, events))
    (hquiet : g.Quiet)
    (hcommands : ∀ command ∈ commands, command.payload.kind.fillsRegistry = false ∧
      isQueued command.ticket = g.accepts command) :
    g.Fate hardware commands isQueued s.traffic.handler events := by
  obtain ⟨done, hlines, hleft⟩ := run_linesUp hquiet hcommands turns
  rw [hrun] at hlines hleft
  rw [hfinished.left, List.append_nil] at hleft
  rw [← hleft]
  exact hlines.fate hquiet hfinished.callers hfinished.due

end Submission

/-! ## In turn and at once -/

/-- The hardware is called in the same order, every command has the same result, and the queued
ones are completed in the same order. -/
structure Event.Alike (isQueued : Nat → Bool) (events others : List Event) : Prop where
  calls_eq : Event.calls events = Event.calls others
  completions_perm : (Event.completions events).Perm (Event.completions others)
  queued_eq : (Event.completions events).filter (isQueued ·.1) =
    (Event.completions others).filter (isQueued ·.1)

namespace Generic

variable {hardware : Hardware} {g after other : Generic} {commands : List Command}
  {isQueued : Nat → Bool} {events others : List Event}

theorem Fate.unique (h : g.Fate hardware commands isQueued after events)
    (hother : g.Fate hardware commands isQueued other others) :
    after = other ∧ Event.Alike isQueued events others := by
  have hsame : after = other := h.handler_eq.trans hother.handler_eq.symm
  have hqueued := h.queued_eq.trans hother.queued_eq.symm
  have hrejected := h.rejected_eq.trans hother.rejected_eq.symm
  obtain ⟨since, hsince, hcalls⟩ := h.calls_eq
  obtain ⟨later, hlater, hothers⟩ := hother.calls_eq
  obtain rfl : since = later := List.append_cancel_left (hsince.symm.trans hlater)
  refine ⟨hsame, ?_, ?_, hqueued⟩
  · rw [hcalls, hothers, hsame]
  · have hperm (seen : List Event) := List.filter_append_perm (isQueued ·.1) (Event.completions seen)
    refine (hperm events).symm.trans (.trans ?_ (hperm others))
    simp only [hqueued, hrejected]
    exact .refl _

theorem Quiet.submitAll (hquiet : g.Quiet) (hardware : Hardware) (commands : List Command) :
    (g.submitAll hardware false commands).1.Quiet ∧
      (Event.completions (g.submitAll hardware false commands).2).map (·.1) =
        commands.map (·.ticket) := by
  induction commands generalizing g with
  | nil => exact ⟨hquiet, rfl⟩
  | cons command rest ih =>
      obtain ⟨hsettled, result, hcompleted⟩ := hquiet.handle hardware command
      obtain ⟨hlast, hlater⟩ := ih hsettled
      refine ⟨hlast, ?_⟩
      rw [Generic.submitAll, Event.completions_append, List.map_append, hcompleted, hlater]
      rfl

theorem Quiet.carryOut (hquiet : g.Quiet) (hardware : Hardware) (commands : List Command) :
    (g.carryOut hardware false commands).1.Quiet ∧
      (Event.completions (g.carryOut hardware false commands).2).map (·.1) =
        commands.map (·.ticket) := by
  obtain ⟨hsubmitted, hcompleted⟩ := hquiet.submitAll hardware commands
  obtain ⟨hsettled, hnothing⟩ := hsubmitted.settle hardware
  refine ⟨hsettled, ?_⟩
  rw [Generic.carryOut, Event.completions_append, List.map_append, hcompleted, hnothing,
    List.map_nil, List.append_nil]

/-- Commands with their places in the list for tickets. -/
def numbered (payloads : List Payload) : List Command :=
  payloads.zipIdx.map fun (payload, place) => ⟨place, payload⟩

def queues (g : Generic) (payloads : List Payload) (place : Nat) : Bool :=
  payloads[place]?.any fun payload => (g.validate payload).isOk

theorem ticket_numbered (payloads : List Payload) :
    (numbered payloads).map (·.ticket) = List.range payloads.length := by
  simp [numbered, List.map_map, Function.comp_def, List.zipIdx_map_snd, List.range_eq_range']

theorem queues_numbered {payloads : List Payload} {command : Command}
    (hmem : command ∈ numbered payloads) :
    command.payload ∈ payloads ∧ g.queues payloads command.ticket = g.accepts command := by
  obtain ⟨⟨payload, place⟩, hplace, rfl⟩ := List.mem_map.mp hmem
  have hget := List.mem_zipIdx_iff_getElem?.mp hplace
  exact ⟨List.mem_of_getElem? hget, by simp [queues, accepts, hget]⟩

end Generic

/-- From a handler with nothing under way, a list of commands that neither list adapters nor scan
comes to the same end whether each waits for the one before or all are submitted while the hardware
is held, or in whatever way the calls and the worker take turns. -/
theorem queueing_changes_nothing {g : Generic} (hquiet : g.Quiet) (hardware : Hardware)
    {payloads : List Payload}
    (hkinds : ∀ payload ∈ payloads, payload.kind.fillsRegistry = false) :
    let commands := Generic.numbered payloads
    let isQueued := g.queues payloads
    let inTurn := g.carryOut hardware false commands
    let atOnce := g.carryOut hardware true commands
    (Event.completions inTurn.2).map (·.1) = List.range payloads.length ∧
      inTurn.1.Quiet ∧ inTurn.1.registry = g.registry ∧
      atOnce.1 = inTurn.1 ∧ Event.Alike isQueued atOnce.2 inTurn.2 ∧
      ∀ turns s events, (Submission.begin g commands).run hardware turns = (s, events) →
        s.Finished hardware →
        s.traffic.handler = inTurn.1 ∧ Event.Alike isQueued events inTurn.2 := by
  intro commands isQueued inTurn atOnce
  -- no result of these kinds changes the registry, so a command is valid now or never
  have hcommands : ∀ command ∈ commands, command.payload.kind.fillsRegistry = false ∧
      isQueued command.ticket = g.accepts command := fun command hmem =>
    ⟨hkinds _ (Generic.queues_numbered hmem (g := g)).1, (Generic.queues_numbered hmem).2⟩
  -- either way is one of taking turns, and the fate of the list is the same for all of them
  have hfate (isHeld : Bool) : g.Fate hardware commands isQueued
      (g.carryOut hardware isHeld commands).1 (g.carryOut hardware isHeld commands).2 := by
    obtain ⟨turns, hrun, hfinished⟩ := Submission.carryOut_turns hardware isHeld g commands
    exact hfinished.fate hrun hquiet hcommands
  obtain ⟨hrests, hcompleted⟩ := hquiet.carryOut hardware commands
  obtain ⟨hsame, halike⟩ := (hfate true).unique (hfate false)
  refine ⟨hcompleted.trans (Generic.ticket_numbered payloads), hrests, ?_, hsame, halike,
    fun turns s events hrun hfinished => ?_⟩
  · rw [(hfate false).handler_eq]
  · exact (hfinished.fate hrun hquiet hcommands).unique (hfate false)

def afterScan : Generic :=
  (history "RPI" [.offer ⟨0, .scan none⟩, .advance 0, .advance 0, .advance 0,
    .work (.start (.ok ())), .work .pop,
    .work (.finish (.ok (.lines ["device #0: TV", "address: 0", "vendor: LG"])))]).now.handler

/-- Two commands for the hardware and two that are not valid. -/
def mixedBurst : List Payload :=
  [.getConfig "version" none, .setConfig "version" "2.0" none,
    .sendCommand none "0" 1000 ⟨"active", []⟩, .sendCommand none "7" 1000 ⟨"active", []⟩]

def countingHardware : Hardware where
  answer executed _ := .ok (.lines ["CEC version: " ++ Decimal.render executed.length])

theorem mixedBurst_queueing :
    afterScan.Quiet ∧ afterScan.registry.devices.map (·.address) = ["0"] ∧
      (∀ payload ∈ mixedBurst, payload.kind.fillsRegistry = false) ∧
      let commands := Generic.numbered mixedBurst
      let inTurn := afterScan.carryOut countingHardware false commands
      let atOnce := afterScan.carryOut countingHardware true commands
      (Event.completions inTurn.2).map (·.1) = [0, 1, 2, 3] ∧
        (Event.completions atOnce.2).map (·.1) = [1, 3, 0, 2] ∧
        (Event.calls atOnce.2).length = 2 ∧
        Event.Alike (afterScan.queues mixedBurst) atOnce.2 inTurn.2 := by
  have hopen : afterScan.queue.isShut = false := by decide +kernel
  have hidle : afterScan.queue.due countingHardware false = none :=
    Generic.due_of_idle (show afterScan.queue.worker = .idle none by decide +kernel)
      (by decide +kernel) hopen
  have hquiet : afterScan.Quiet :=
    history_quiet "RPI" _ (by decide +kernel) (by decide +kernel) hopen hidle
  have hkinds : ∀ payload ∈ mixedBurst, payload.kind.fillsRegistry = false := by decide
  obtain ⟨-, -, -, -, halike, -⟩ := queueing_changes_nothing hquiet countingHardware hkinds
  exact ⟨hquiet, by decide +kernel, hkinds, by decide +kernel, by decide +kernel,
    by decide +kernel, halike⟩

end CecGateway
