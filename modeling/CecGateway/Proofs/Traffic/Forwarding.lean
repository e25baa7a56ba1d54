import CecGateway.Proofs.RequestLine
import CecGateway.Proofs.Traffic.Balance

/-!
# The hardware sees the accepted commands

A message is made from its command twice, once to validate it and once for the queue, and only the
sequence number differs, of which no request depends. So where calls follow one upon another and the
hardware can be opened, the worker never has a message that it cannot hand on, and what it hands on
are the requests of the accepted commands in the order of their calls (`hardware_sees_accepted`).
-/

namespace CecGateway

/-- The request for a payload; no sequence number changes it. -/
def Payload.native? (defaultAdapter : String) (p : Payload) : Option NativeCommand :=
  (Message.ofPayload 0 defaultAdapter p).toNative.toOption

def Payload.requestLine? (defaultAdapter : String) (p : Payload) : Option String :=
  (p.native? defaultAdapter).map (·.requestLine)

def Message.native? (m : Message) : Option NativeCommand := m.toNative.toOption

theorem Message.native?_ofPayload (seq : Nat) (defaultAdapter : String) (p : Payload) :
    (ofPayload seq defaultAdapter p).native? = p.native? defaultAdapter := rfl

theorem Message.toNative_of_native? {m : Message} {native : NativeCommand}
    (h : m.native? = some native) : m.toNative = .ok native := by
  unfold native? at h
  cases hnative : m.toNative with
  | error fault => simp [hnative, Except.toOption] at h
  | ok command =>
      rw [hnative, Except.toOption, Option.some_inj] at h
      rw [h]

theorem Generic.native?_of_validate {g : Generic} {p : Payload} (h : g.validate p = .ok ()) :
    (p.native? g.defaultAdapter).isSome := by
  obtain ⟨command, hcommand⟩ := exists_native h 0
  have hnative : (Message.ofPayload 0 g.defaultAdapter p).toNative = .ok command := hcommand
  simp [Payload.native?, hnative, Except.toOption]

/-! ## What the hardware is given -/

def Event.executions (events : List Event) : List NativeCommand :=
  events.filterMap fun
    | .call (.executed command) => some command
    | _ => none

@[simp]
theorem Event.executions_nil : executions [] = [] := rfl

@[simp]
theorem Event.executions_completed (ticket : Nat) (result : Result) :
    executions [.completed ticket result] = [] := rfl

@[simp]
theorem Event.executions_append (events later : List Event) :
    executions (events ++ later) = executions events ++ executions later := by
  simp [executions]

@[simp]
theorem Event.executions_map_executed (commands : List NativeCommand) :
    executions (commands.map fun command => .call (.executed command)) = commands := by
  induction commands with
  | nil => rfl
  | cons command rest ih => exact congrArg (command :: ·) ih

@[simp]
theorem Generic.executions_apply (g : Generic) (result : Result) :
    Event.executions (g.apply result).2 = [] := by
  unfold apply
  split <;> simp [Event.executions]

namespace Traffic

/-- The command that a step accepts. -/
def accepts (t : Traffic) : Step → List Command
  | .offer command =>
    match t.handler.validate command.payload with
    | .ok () => [command]
    | .error _ => []
  | _ => []

def Step.isFailedStart : Step → Bool
  | .work (.start (.error _)) => true
  | _ => false

variable {t next : Traffic} {s : Step} {events : List Event} {defaultAdapter : String}
  {accepted : List Command} {executed : List NativeCommand}

/-- Every accepted command has been handed on as its request, or waits, or is still in its call;
what is neither has come too late for the queue, with all that came after it. -/
structure Sends (defaultAdapter : String) (accepted : List Command)
    (executed : List NativeCommand) (t : Traffic) : Prop where
  defaultAdapter_eq : t.handler.defaultAdapter = defaultAdapter
  isSome : ∀ command ∈ accepted, (command.payload.native? defaultAdapter).isSome
  length_callers_le : t.callers.length ≤ 1
  idle : ∀ fault?, t.handler.queue.worker = .idle fault? → fault? = none
  busy : ∀ fault? message, t.handler.queue.worker = .busy fault? message →
    fault? = none ∧ message.native?.isSome
  accepted_eq : ∃ rest,
    accepted.map (·.payload.native? defaultAdapter) =
      executed.map some ++ t.handler.queue.waiting.map (·.native?) ++ rest ∧
    (t.handler.queue.isShut = false →
      rest = t.callers.map (·.command.payload.native? defaultAdapter))

theorem sends_begin (defaultAdapter : String) :
    Sends defaultAdapter [] [] { handler := { defaultAdapter } } where
  defaultAdapter_eq := rfl
  isSome := by simp
  length_callers_le := by simp
  idle := by simp
  busy := by simp
  accepted_eq := ⟨[], by simp⟩

/-- In a queue that is sent only accepted commands, the first message can be handed on. -/
theorem Sends.isSome_of_waiting (h : t.Sends defaultAdapter accepted executed) {message : Message}
    (hmem : message ∈ t.handler.queue.waiting) : message.native?.isSome := by
  obtain ⟨rest, heq, -⟩ := h.accepted_eq
  have hnative : message.native? ∈ accepted.map (·.payload.native? defaultAdapter) := by
    rw [heq]
    exact List.mem_append_left _ (List.mem_append_right _ (List.mem_map_of_mem hmem))
  obtain ⟨command, hcommand, hsame⟩ := List.mem_map.mp hnative
  rw [← hsame]
  exact h.isSome command hcommand

/-- While no message comes or goes, it is enough that an open queue keeps its calls. -/
theorem Sends.mono (h : t.Sends defaultAdapter accepted executed)
    (hadapter : next.handler.defaultAdapter = t.handler.defaultAdapter)
    (hlength : next.callers.length ≤ t.callers.length)
    (hidle : ∀ fault?, next.handler.queue.worker = .idle fault? → fault? = none)
    (hbusy : ∀ fault? message, next.handler.queue.worker = .busy fault? message →
      t.handler.queue.worker = .busy fault? message)
    (hwaiting : next.handler.queue.waiting = t.handler.queue.waiting)
    (hopen : next.handler.queue.isShut = false → t.handler.queue.isShut = false ∧
      next.callers.map (·.command) = t.callers.map (·.command)) :
    next.Sends defaultAdapter accepted executed := by
  obtain ⟨hdefault, hsome, hcallers_le, -, hsent, rest, heq, hrest⟩ := h
  refine ⟨hadapter.trans hdefault, hsome, Nat.le_trans hlength hcallers_le, hidle,
    fun fault? message hworker => hsent fault? message (hbusy fault? message hworker),
    rest, by rw [heq, hwaiting], fun hnext => ?_⟩
  obtain ⟨hbefore, hcallers⟩ := hopen hnext
  have hnatives := congrArg (List.map (·.payload.native? defaultAdapter)) hcallers
  rw [List.map_map, List.map_map] at hnatives
  exact (hrest hbefore).trans hnatives.symm

theorem eq_nil_of_length_le_one {before after : List Caller} {c : Caller}
    (h : (before ++ c :: after).length ≤ 1) : before = [] ∧ after = [] := by
  rw [List.length_append, List.length_cons] at h
  exact ⟨List.length_eq_zero_iff.mp (by omega), List.length_eq_zero_iff.mp (by omega)⟩

theorem Sends.enter (h : t.Sends defaultAdapter accepted executed) {command : Command}
    (hvalid : t.handler.validate command.payload = .ok ()) (hturn : t.callers = []) :
    Sends defaultAdapter (accepted ++ [command]) executed
      { t with
        offered := t.offered ++ [command]
        callers := t.callers ++ [⟨command, .validated⟩] } := by
  obtain ⟨rfl, hsome, -, hidle, hbusy, rest, heq, hrest⟩ := h
  have hnative := Generic.native?_of_validate hvalid
  refine ⟨rfl, ?_, by simp [hturn], hidle, hbusy,
    rest ++ [command.payload.native? t.handler.defaultAdapter], ?_, fun hopen => ?_⟩
  · exact List.forall_mem_append.mpr ⟨hsome, List.forall_mem_singleton.mpr hnative⟩
  · rw [List.map_append, heq, List.append_assoc]
    rfl
  · rw [hrest hopen, List.map_append]
    rfl

theorem Sends.submit (h : t.Sends defaultAdapter accepted executed) {before after : List Caller}
    {command : Command} {seq : Nat}
    (hcallers : t.callers = before ++ ⟨command, .recorded seq⟩ :: after)
    (hopen : t.handler.queue.isShut = false) :
    Sends defaultAdapter accepted executed
      { t.withQueue { t.handler.queue with
          waiting := t.handler.queue.waiting ++ [t.handler.messageOf seq command.payload] } with
        callers := before ++ after } := by
  obtain ⟨rfl, hsome, hcallers_le, hidle, hbusy, rest, heq, hrest⟩ := h
  -- only one call is under way, so no later command can come before this one
  obtain ⟨rfl, rfl⟩ := eq_nil_of_length_le_one (hcallers ▸ hcallers_le)
  refine ⟨rfl, hsome, by simp, hidle, hbusy, [], ?_, by simp⟩
  rw [heq, hrest hopen, hcallers]
  simp [withQueue, Generic.messageOf, Message.native?_ofPayload]

theorem Sends.pop (h : t.Sends defaultAdapter accepted executed) {fault? : Option Fault}
    {message : Message} {waiting : List Message}
    (hworker : t.handler.queue.worker = .idle fault?)
    (hwaiting : t.handler.queue.waiting = message :: waiting) :
    ∃ native, Queue.commandFor fault? message = .ok native ∧
      Sends defaultAdapter accepted (executed ++ [native])
        (t.withQueue { t.handler.queue with
          waiting, worker := .busy fault? message
          executed := t.handler.queue.executed ++ [native] }) := by
  have hhead := h.isSome_of_waiting (hwaiting ▸ List.mem_cons_self)
  obtain ⟨rfl, hsome, hcallers_le, hidle, hbusy, rest, heq, hrest⟩ := h
  obtain rfl := hidle fault? hworker
  obtain ⟨native, hnative⟩ := Option.isSome_iff_exists.mp hhead
  refine ⟨native, Message.toNative_of_native? hnative, rfl, hsome, hcallers_le, by simp [withQueue],
    ?_, rest, ?_, hrest⟩
  · intro other? other hother
    obtain ⟨rfl, rfl⟩ : none = other? ∧ message = other := by simpa [withQueue] using hother
    exact ⟨rfl, hhead⟩
  · rw [heq, hwaiting, List.map_cons, hnative]
    simp [withQueue]

theorem Effect.sends (h : t.Effect s next events)
    (hsends : t.Sends defaultAdapter accepted executed)
    (hturn : s.offers ≠ [] → t.callers = []) (hopens : s.isFailedStart = false) :
    next.Sends defaultAdapter (accepted ++ t.accepts s)
      (executed ++ Event.executions events) := by
  have hidle := hsends.idle
  have hbusy := hsends.busy
  cases h with
  | @rejected command why hinvalid =>
      have hnext : ({ t with offered := t.offered ++ [command] } : Traffic).Sends defaultAdapter
          accepted executed :=
        hsends.mono rfl (Nat.le_refl _) hidle (fun _ _ h => h) rfl fun h => ⟨h, rfl⟩
      simpa [accepts, hinvalid, Generic.fail] using hnext
  | @entered command hvalid =>
      simpa [accepts, hvalid] using hsends.enter hvalid (hturn (by simp [Step.offers]))
  | numbered hcallers =>
      simp only [accepts, Event.executions_nil, List.append_nil]
      exact hsends.mono rfl (by simp [hcallers]) hidle (fun _ _ h => h) rfl
        fun h => ⟨h, by simp [hcallers]⟩
  | recorded hcallers =>
      simp only [accepts, Event.executions_nil, List.append_nil]
      exact hsends.mono rfl (by simp [hcallers]) hidle (fun _ _ h => h) rfl
        fun h => ⟨h, by simp [hcallers]⟩
  | submitted hcallers hopen =>
      simpa [accepts] using hsends.submit hcallers hopen
  | refused hcallers hshut hpending =>
      simp only [accepts, Generic.fail, Event.executions_completed, List.append_nil]
      exact hsends.mono rfl (by simp [hcallers]) hidle (fun _ _ h => h) rfl
        fun h => by simp [hshut] at h
  | bereft hcallers hshut hpending =>
      simp only [accepts, Event.executions_nil, List.append_nil]
      exact hsends.mono rfl (by simp [hcallers]) hidle (fun _ _ h => h) rfl
        fun h => by simp [hshut] at h
  | subscribed =>
      simp only [accepts, Event.executions_nil, List.append_nil]
      exact hsends.mono rfl (Nat.le_refl _) hidle (fun _ _ h => h) rfl fun h => ⟨h, rfl⟩
  | @started fault? opening hworker hopening =>
      have hnone : fault? = none := by
        cases fault? with
        | none => rfl
        | some fault => simp [hopening, Step.isFailedStart] at hopens
      have hnothing : Event.executions [.call .opened] = [] := rfl
      simp only [accepts, hnothing, List.append_nil]
      exact hsends.mono rfl (Nat.le_refl _) (by simp [withQueue, hnone]) (by simp [withQueue]) rfl
        fun h => ⟨h, rfl⟩
  | @popped fault? message waiting given hworker hwaiting hopen hgiven =>
      obtain ⟨native, hnative, hnext⟩ := hsends.pop hworker hwaiting
      obtain rfl : given = [native] := by
        rw [hgiven, hnative]
        rfl
      simpa only [accepts, Event.executions_map_executed, List.append_nil] using hnext
  | @answered fault? message answer p result hworker hpending hresult =>
      obtain ⟨hnone, -⟩ := hbusy fault? message hworker
      simp only [accepts, Event.executions_append, Generic.executions_apply,
        Event.executions_completed, List.append_nil]
      exact hsends.mono (by simp [afterwards, Generic.forget]) (Nat.le_refl _) (by simp [hnone])
        (by simp) (by simp) fun h => ⟨by simpa using h, rfl⟩
  | @unmatched fault? message answer hworker hpending =>
      obtain ⟨hnone, -⟩ := hbusy fault? message hworker
      simp only [accepts, Event.executions_nil, List.append_nil]
      exact hsends.mono rfl (Nat.le_refl _) (by simp [hnone]) (by simp) rfl fun h => ⟨h, rfl⟩
  | @stopped fault? calls hworker hshut hcalls =>
      have hnothing : Event.executions (calls.map .call) = [] := by
        rw [hcalls]
        split <;> rfl
      simp only [accepts, hnothing, List.append_nil]
      exact hsends.mono rfl (Nat.le_refl _) (by simp [withQueue]) (by simp [withQueue]) rfl
        fun h => ⟨h, rfl⟩
  | closed =>
      simp only [accepts, Event.executions_nil, List.append_nil]
      exact hsends.mono rfl (Nat.le_refl _) hidle (fun _ _ h => h) rfl
        fun h => by simp [withQueue] at h
  | abandoned hworker =>
      have hnothing : Event.executions (t.handler.pending.map fun p =>
          Generic.fail .hardwareUnavailable p.kind p.command) = [] := by
        simp [Event.executions, Generic.fail]
      simp only [accepts, hnothing, List.append_nil]
      exact hsends.mono rfl (Nat.le_refl _) hidle (fun _ _ h => h) rfl fun h => ⟨h, rfl⟩

/-- The worker has a request for whatever message it takes, -/
theorem Sends.popped (h : t.Sends defaultAdapter accepted executed)
    (heffect : t.Effect (.work .pop) next events) :
    ∃ native, events = [.call (.executed native)] := by
  cases heffect with
  | popped hworker hwaiting hopen hgiven =>
      obtain ⟨native, hnative, -⟩ := h.pop hworker hwaiting
      refine ⟨native, ?_⟩
      rw [hgiven, hnative]
      rfl

/-- so that a reply is never a failure of its own. -/
theorem Sends.answered {answer : Except Fault Response}
    (h : t.Sends defaultAdapter accepted executed)
    (heffect : t.Effect (.work (.finish answer)) next events) :
    ∃ fault? message, t.handler.queue.worker = .busy fault? message ∧
      Queue.outcomeFor fault? message answer = .ofAnswer answer := by
  have houtcome : ∀ fault? message, t.handler.queue.worker = .busy fault? message →
      Queue.outcomeFor fault? message answer = .ofAnswer answer := by
    intro fault? message hworker
    obtain ⟨rfl, hnative⟩ := h.busy fault? message hworker
    obtain ⟨native, hnative⟩ := Option.isSome_iff_exists.mp hnative
    have hcommand : Queue.commandFor none message = .ok native :=
      Message.toNative_of_native? hnative
    rw [Queue.outcomeFor, hcommand]
  cases heffect with
  | answered hworker => exact ⟨_, _, hworker, houtcome _ _ hworker⟩
  | unmatched hworker => exact ⟨_, _, hworker, houtcome _ _ hworker⟩

end Traffic

/-! ## Whole runs -/

def Moment.accepted (m : Moment) : List Command := m.before.accepts m.step

namespace History

/-- The commands that were valid when their calls began, oldest first. -/
def accepted (h : History) : List Command := h.past.flatMap (·.accepted)

/-- The native commands that the hardware has been handed, oldest first. -/
def executed (h : History) : List NativeCommand := Event.executions h.events

/-- No call begins before the one before it has returned. -/
def InTurn (h : History) : Prop := ∀ m ∈ h.past, m.step.offers ≠ [] → m.before.callers = []

/-- The hardware does not fail to open. -/
def Opens (h : History) : Prop := ∀ m ∈ h.past, m.step.isFailedStart = false

instance (h : History) : Decidable h.InTurn :=
  inferInstanceAs (Decidable (∀ m ∈ h.past, m.step.offers ≠ [] → m.before.callers = []))

instance (h : History) : Decidable h.Opens :=
  inferInstanceAs (Decidable (∀ m ∈ h.past, m.step.isFailedStart = false))

/-- The state of what has been sent, now and before every step. -/
structure Sending (defaultAdapter : String) (h : History) : Prop where
  now : h.now.Sends defaultAdapter h.accepted h.executed
  before : ∀ m ∈ h.past, ∃ accepted executed next,
    m.before.Sends defaultAdapter accepted executed ∧ m.before.Effect m.step next m.events

theorem Sending.extend {h : History} {s : Traffic.Step} {next : Traffic} {events : List Event}
    {defaultAdapter : String} (hsending : h.Sending defaultAdapter)
    (heffect : h.now.Effect s next events) (hturn : s.offers ≠ [] → h.now.callers = [])
    (hopens : s.isFailedStart = false) :
    Sending defaultAdapter ⟨next, h.past ++ [⟨h.now, s, events⟩]⟩ := by
  have hnext := heffect.sends hsending.now hturn hopens
  refine ⟨?_, ?_⟩
  · simpa [accepted, executed, History.events, Moment.accepted] using hnext
  · exact List.forall_mem_append.mpr ⟨hsending.before,
      List.forall_mem_singleton.mpr ⟨_, _, next, hsending.now, heffect⟩⟩

end History

theorem History.sending_begin (defaultAdapter : String) :
    (History.begin defaultAdapter).Sending defaultAdapter where
  now := Traffic.sends_begin defaultAdapter
  before := by simp [History.begin]

theorem history_sending (defaultAdapter : String) (schedule : List Traffic.Step)
    (hturn : (history defaultAdapter schedule).InTurn)
    (hopens : (history defaultAdapter schedule).Opens) :
    (history defaultAdapter schedule).Sending defaultAdapter := by
  refine History.follow_invariant
    (P := fun h => h.InTurn → h.Opens → h.Sending defaultAdapter)
    (fun h s next events hsending heffect hturn hopens => ?_)
    (fun _ _ => History.sending_begin defaultAdapter) schedule hturn hopens
  obtain ⟨hturn, hlast⟩ := List.forall_mem_append.mp hturn
  obtain ⟨hopens, hfails⟩ := List.forall_mem_append.mp hopens
  exact (hsending hturn hopens).extend heffect (hlast _ (List.mem_singleton_self _))
    (hfails _ (List.mem_singleton_self _))

namespace History

/-- What the hardware has been given, beside what was accepted. -/
structure Forwards (defaultAdapter : String) (h : History) : Prop where
  lines_prefix : (h.executed.map fun native => some native.requestLine) <+:
    h.accepted.map (·.payload.requestLine? defaultAdapter)
  /-- Once the worker has taken all that was queued, and the handler is not being dropped, it is
  everything. -/
  lines_eq : h.now.handler.queue.isShut = false → h.now.callers = [] →
    h.now.handler.queue.waiting = [] → (h.executed.map fun native => some native.requestLine) =
      h.accepted.map (·.payload.requestLine? defaultAdapter)
  isSome : ∀ command ∈ h.accepted, (command.payload.requestLine? defaultAdapter).isSome
  /-- The line of a command that is not accepted is not seen, unless an accepted one has it too. -/
  unseen : ∀ p : Payload,
    (∀ command ∈ h.accepted,
      command.payload.requestLine? defaultAdapter ≠ p.requestLine? defaultAdapter) →
    ∀ native ∈ h.executed, p.requestLine? defaultAdapter ≠ some native.requestLine
  /-- Every message that the worker takes is handed on, -/
  popping : ∀ m ∈ h.past, m.step = .work .pop → ∃ native, m.events = [.call (.executed native)]
  /-- and the reply is what the hardware has answered. -/
  finishing : ∀ m ∈ h.past, ∀ answer, m.step = .work (.finish answer) →
    ∃ fault? message, m.before.handler.queue.worker = .busy fault? message ∧
      Queue.outcomeFor fault? message answer = .ofAnswer answer

end History

/-- Where calls follow one upon another and the hardware opens, it is handed the requests of the
accepted commands, in their order and each once, and nothing else. -/
theorem hardware_sees_accepted (defaultAdapter : String) (schedule : List Traffic.Step)
    (hturn : (history defaultAdapter schedule).InTurn)
    (hopens : (history defaultAdapter schedule).Opens) :
    (history defaultAdapter schedule).Forwards defaultAdapter := by
  have hsending := history_sending defaultAdapter schedule hturn hopens
  generalize history defaultAdapter schedule = h at hsending
  obtain ⟨rest, heq, hrest⟩ := hsending.now.accepted_eq
  -- the lines are read off the native commands
  have hlines := congrArg (List.map (Option.map NativeCommand.requestLine)) heq
  simp only [List.map_append, List.map_map] at hlines
  have hbegins : (h.executed.map fun native => some native.requestLine) <+:
      h.accepted.map (·.payload.requestLine? defaultAdapter) :=
    ⟨_, (List.append_assoc .. ▸ hlines).symm⟩
  refine ⟨hbegins, ?_, ?_, ?_, ?_, ?_⟩
  · intro hopen hcallers hwaiting
    rw [hrest hopen, hcallers, hwaiting, List.map_nil, List.map_nil, List.map_nil, List.append_nil,
      List.append_nil] at hlines
    exact hlines.symm
  · intro command hcommand
    rw [Payload.requestLine?, Option.isSome_map]
    exact hsending.now.isSome command hcommand
  · intro p hother native hnative hsame
    have hmem := hbegins.subset (List.mem_map_of_mem hnative)
    obtain ⟨command, hcommand, hline⟩ := List.mem_map.mp hmem
    exact hother command hcommand (hline.trans hsame.symm)
  · intro m hm hstep
    obtain ⟨accepted, executed, next, hsends, heffect⟩ := hsending.before m hm
    exact hsends.popped (hstep ▸ heffect)
  · intro m hm answer hstep
    obtain ⟨accepted, executed, next, hsends, heffect⟩ := hsending.before m hm
    exact hsends.answered (hstep ▸ heffect)

/-- Three calls in turn; the second is invalid, and the third overlaps the first reply. -/
def interleaved : List Traffic.Step :=
  [.offer ⟨0, .scan none⟩, .advance 0, .advance 0, .work (.start (.ok ())), .advance 0,
    .offer ⟨1, .scan (some "gone")⟩, .work .pop, .offer ⟨2, .listAdapters⟩, .advance 0, .advance 0,
    .work (.finish (.ok (.lines []))), .advance 0, .work .pop]

theorem hardware_sees_interleaved :
    (history "RPI" interleaved).InTurn ∧ (history "RPI" interleaved).Opens ∧
      (history "RPI" interleaved).executed.map (·.requestLine) =
        ["scan adapter=RPI", "listAdapters"] ∧
      (history "RPI" interleaved).Forwards "RPI" :=
  ⟨by decide, by decide, by decide,
    hardware_sees_accepted "RPI" interleaved (by decide) (by decide)⟩

end CecGateway
