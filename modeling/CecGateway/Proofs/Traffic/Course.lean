import CecGateway.Proofs.Answer
import CecGateway.Proofs.Traffic.Forwarding
import CecGateway.Proofs.Traffic.Quiet

/-!
# The course of one command

A command that is taken while nothing is under way takes one of three courses: it is not valid, or
the hardware could not be opened, or the hardware is given its request, once, and the answer is what
completes it.
-/

namespace CecGateway

namespace Event

def calls (events : List Event) : List Call :=
  events.filterMap fun
    | .call made => some made
    | _ => none

@[simp]
theorem calls_nil : calls [] = [] := rfl

@[simp]
theorem calls_append (events later : List Event) :
    calls (events ++ later) = calls events ++ calls later := by
  simp [calls]

@[simp]
theorem calls_completed (ticket : Nat) (result : Result) :
    calls [.completed ticket result] = [] := rfl

@[simp]
theorem calls_call (made : Call) (events : List Event) :
    calls (.call made :: events) = made :: calls events := rfl

@[simp]
theorem calls_offered (place : Nat) (payload : Payload) (seen : Option Device)
    (events : List Event) : calls (.offered place payload seen :: events) = calls events := rfl

end Event

namespace Outcome

variable {answer : Except Fault Response}

theorem ofAnswer_eq_failed_iff {fault : Fault} :
    ofAnswer answer = .failed fault ↔ answer = .error fault := by
  rcases answer with reason | _ | _ <;> simp [ofAnswer]

theorem ofAnswer_eq_lines_iff {text : List String} :
    ofAnswer answer = .lines text ↔ answer = .ok (.lines text) := by
  rcases answer with reason | _ | _ <;> simp [ofAnswer]

end Outcome

/-- The fault that the worker has after it has opened the hardware. -/
def Hardware.fault? (hardware : Hardware) : Option Fault :=
  match hardware.opening with
  | .ok () => none
  | .error fault => some fault

/-- Neither opening the hardware nor a command comes to a limit of native commands. -/
structure Hardware.KeepsLimits (hardware : Hardware) : Prop where
  opening : ∀ field message, hardware.opening ≠ .error (.limitExceeded field message)
  answer : ∀ executed command field message,
    hardware.answer executed command ≠ .error (.limitExceeded field message)

namespace Generic

variable {g : Generic} {hardware : Hardware} {isHeld : Bool} {fault? : Option Fault}
  {command : Command}

@[simp]
theorem calls_apply (g : Generic) (result : Result) : Event.calls (g.apply result).2 = [] := by
  unfold apply
  split <;> simp [Event.calls]

/-! ## Step by step -/

theorem settle_go_of_due {s : Queue.Step} (fuel : Nat)
    (hdue : g.queue.due hardware isHeld = some s) :
    ∃ handler events, ({ handler := g } : Traffic).Effect (.work s) { handler } events ∧
      settle.go hardware isHeld (fuel + 1) g =
        ((settle.go hardware isHeld fuel handler).1,
          events ++ (settle.go hardware isHeld fuel handler).2) := by
  obtain ⟨⟨queue, queued⟩, hstep⟩ := Queue.exists_step_of_due hdue
  have hwork : g.work s = some ({ g with queue }.onQueueEvents queued) := by
    simp [work, hstep]
  refine ⟨_, _, Traffic.work_effect (t := { handler := g }) (Queue.isWork_of_due hdue) hwork, ?_⟩
  simp [settle.go, hdue, hwork]

theorem settle_go_of_rest (fuel : Nat) (hdue : g.queue.due hardware isHeld = none) :
    settle.go hardware isHeld fuel g = (g, []) := by
  cases fuel <;> simp [settle.go, hdue]

theorem due_of_idle (hworker : g.queue.worker = .idle fault?) (hwaiting : g.queue.waiting = [])
    (hopen : g.queue.isShut = false) : g.queue.due hardware isHeld = none := by
  simp [Queue.due, hworker, hwaiting, hopen]

/-- The record of the next command. -/
def nextPending (g : Generic) (command : Command) : Pending :=
  ⟨g.nextSeq.toNat, command.payload.kind, command⟩

def nextMessage (g : Generic) (command : Command) : Message :=
  g.messageOf g.nextSeq.toNat command.payload

/-- The handler after a call, where nothing was under way. -/
def submitted (g : Generic) (command : Command) : Generic :=
  { g with
    nextSeq := g.nextSeq + 1
    pending := [g.nextPending command]
    queue := { g.queue with waiting := [g.nextMessage command] } }

def busyWith (g : Generic) (fault? : Option Fault) (command : Command)
    (given : List NativeCommand) : Generic :=
  { g.submitted command with
    queue := { g.queue with
      waiting := []
      worker := .busy fault? (g.nextMessage command)
      executed := g.queue.executed ++ given } }

/-- The handler when the command is over and its result has not been folded in. -/
def taken (g : Generic) (given : List NativeCommand) : Generic :=
  { g with
    nextSeq := g.nextSeq + 1
    queue := { g.queue with executed := g.queue.executed ++ given } }

theorem answer_taken (g : Generic) (native : NativeCommand) (hardware : Hardware) :
    (g.taken [native]).queue.answer hardware = hardware.answer g.queue.executed native := by
  simp [taken, Queue.answer]

namespace Quiet

theorem waiting_eq_nil (hquiet : g.Quiet) : g.queue.waiting = [] := by
  have hheld := hquiet.held
  unfold Queue.held at hheld
  cases hworker : g.queue.worker <;> simp_all

theorem handle_eq (hquiet : g.Quiet) (hvalid : g.validate command.payload = .ok ()) :
    g.handle command = (g.submitted command, []) := by
  have hwaiting := hquiet.waiting_eq_nil
  obtain ⟨hpending, -, hopen, -⟩ := hquiet
  simp [Generic.handle, hvalid, allocate, record, submit, Queue.submit?, hopen, hwaiting, hpending,
    submitted, nextPending, nextMessage, messageOf]

theorem forget_afterwards (hquiet : g.Quiet) (hworker : g.queue.worker = .idle fault?)
    (command : Command) (given : List NativeCommand) :
    (({ handler := g.busyWith fault? command given } : Traffic).afterwards fault?).forget
      (g.nextMessage command).seq = g.taken given := by
  simp [Traffic.afterwards, busyWith, submitted, taken, forget, nextPending, nextMessage, messageOf,
    Message.ofPayload, hquiet.pending, hquiet.waiting_eq_nil, hworker]

theorem settle_submitted (hquiet : g.Quiet) (hworker : g.queue.worker = .idle fault?)
    (hardware : Hardware) (command : Command) :
    let given := (Queue.commandFor fault? (g.nextMessage command)).toOption.toList
    let result := resultOf (g.nextPending command)
      (Queue.outcomeFor fault? (g.nextMessage command) ((g.taken given).queue.answer hardware))
    (g.submitted command).settle hardware false =
      (((g.taken given).apply result).1,
        (given.map fun native => .call (.executed native)) ++
          (((g.taken given).apply result).2 ++ [.completed command.ticket result])) := by
  intro given result
  have hopen := hquiet.isOpen
  have hpop : (g.submitted command).queue.due hardware false = some .pop := by
    simp [Queue.due, submitted, hworker, hopen]
  have hfinish : (g.busyWith fault? command given).queue.due hardware false =
      some (.finish ((g.taken given).queue.answer hardware)) := rfl
  -- the worker takes the message, then its answer, and then there is nothing to do
  obtain ⟨popped, called, hcalling, hgo⟩ := settle_go_of_due 4 hpop
  obtain ⟨after, completed, hcompleting, hrest⟩ := settle_go_of_due 3 hfinish
  have hpopped : popped = g.busyWith fault? command given ∧
      called = given.map fun native => .call (.executed native) := by
    cases hcalling with
    | popped hidle hhead _ hgiven =>
        obtain rfl := Worker.idle.inj (hworker.symm.trans hidle)
        obtain ⟨rfl, rfl⟩ := List.cons.inj hhead
        exact ⟨by rw [hgiven]; rfl, by rw [hgiven]⟩
  have hrecord : (g.busyWith fault? command given).pending? (g.nextMessage command).seq =
      some (g.nextPending command) := by
    simp [busyWith, submitted, pending?, nextPending, nextMessage, messageOf, Message.ofPayload]
  have hafter : after = ((g.taken given).apply result).1 ∧
      completed = ((g.taken given).apply result).2 ++ [.completed command.ticket result] := by
    cases hcompleting with
    | answered hbusy hpending hresult =>
        obtain ⟨rfl, rfl⟩ := Worker.busy.inj hbusy
        obtain rfl := Option.some_inj.mp (hrecord.symm.trans hpending)
        rw [hquiet.forget_afterwards hworker, hresult]
        exact ⟨rfl, rfl⟩
    | unmatched hbusy hpending =>
        obtain ⟨rfl, rfl⟩ := Worker.busy.inj hbusy
        simp [hrecord] at hpending
  have hidle : ((g.taken given).apply result).1.queue.due hardware false = none := by
    rw [apply_queue]
    exact due_of_idle (g := g.taken given) hworker hquiet.waiting_eq_nil hopen
  obtain ⟨rfl, rfl⟩ := hpopped
  obtain ⟨rfl, rfl⟩ := hafter
  have hsettle : (g.submitted command).settle hardware false =
      settle.go hardware false (4 + 1) (g.submitted command) := rfl
  rw [hsettle, hgo, hrest, settle_go_of_rest 3 hidle, List.append_nil]

end Quiet

/-- The worker opens the hardware and then waits. -/
theorem Quiet.settle_starting (hquiet : g.Quiet) (hworker : g.queue.worker = .starting)
    (hardware : Hardware) :
    g.settle hardware false =
      ({ g with queue := { g.queue with worker := .idle hardware.fault? } }, [.call .opened]) := by
  have hwaiting := hquiet.waiting_eq_nil
  have hstart : g.queue.due hardware false = some (.start hardware.opening) := by
    simp [Queue.due, hworker]
  have hsettle : g.settle hardware false = settle.go hardware false (2 + 1) g := by
    simp [Generic.settle, Queue.stepsLeft, hwaiting]
  obtain ⟨opened, called, heffect, hgo⟩ := settle_go_of_due 2 hstart
  rw [hsettle, hgo]
  cases heffect with
  | @started fault? _ _ hopening =>
      obtain rfl : hardware.fault? = fault? := by
        cases fault? <;> simp [Hardware.fault?, hopening]
      let waits : Generic := { g with queue := { g.queue with worker := .idle hardware.fault? } }
      have hidle : waits.queue.due hardware false = none :=
        due_of_idle (g := waits) rfl hwaiting hquiet.isOpen
      exact congrArg (fun settled => (settled.1, .call .opened :: settled.2))
        (settle_go_of_rest 2 hidle)

/-! ## The three courses -/

/-- What the hardware is called for and how a command ends, each course with its guard. -/
inductive Course (hardware : Hardware) (g : Generic) (command : Command) :
    List Call → Result → Prop
  | rejected {why : Failure} (hinvalid : g.validate command.payload = .error why) :
      Course hardware g command [] (.failure command.payload.kind why)
  | unopened {fault : Fault} (hvalid : g.validate command.payload = .ok ())
      (hopening : hardware.opening = .error fault) :
      Course hardware g command [] (resultOf (g.nextPending command) (.failed fault))
  | executed {native : NativeCommand} (hvalid : g.validate command.payload = .ok ())
      (hopening : hardware.opening = .ok ())
      (hnative : command.payload.native? g.defaultAdapter = some native) :
      Course hardware g command [.executed native]
        (resultOf (g.nextPending command)
          (.ofAnswer (hardware.answer g.queue.executed native)))

/-- A command that is taken while the worker waits takes one of the courses, and then the worker
waits again. -/
theorem Quiet.course (hquiet : g.Quiet) (hworker : g.queue.worker = .idle hardware.fault?)
    (command : Command) :
    let called := g.handle command
    let settled := called.1.settle hardware false
    settled.1.queue.worker = .idle hardware.fault? ∧
      ∃ result, Event.completions (called.2 ++ settled.2) = [(command.ticket, result)] ∧
        Course hardware g command (Event.calls (called.2 ++ settled.2)) result := by
  intro called settled
  cases hvalid : g.validate command.payload with
  | error why =>
      have hcalled : called = (g, [fail why command.payload.kind command]) := by
        simp [called, Generic.handle, hvalid]
      have hsettled : settled = (g, []) := by
        have hidle : g.queue.due hardware false = none :=
          due_of_idle hworker hquiet.waiting_eq_nil hquiet.isOpen
        simp only [settled, hcalled]
        exact settle_go_of_rest _ hidle
      rw [hcalled, hsettled]
      exact ⟨hworker, _, rfl, .rejected hvalid⟩
  | ok =>
      have hcalled : called = (g.submitted command, []) := hquiet.handle_eq hvalid
      have hsettled := hquiet.settle_submitted hworker hardware command
      simp only [settled, hcalled]
      rw [hsettled]
      refine ⟨by rw [apply_queue]; exact hworker, _, by simp; rfl, ?_⟩
      cases hopening : hardware.opening with
      | error fault =>
          have hfault : hardware.fault? = some fault := by
            simp [Hardware.fault?, hopening]
          simpa [hfault, Queue.commandFor, Queue.outcomeFor, Except.toOption] using
            Course.unopened hvalid hopening
      | ok =>
          have hfault : hardware.fault? = none := by
            simp [Hardware.fault?, hopening]
          obtain ⟨native, hnative⟩ := Option.isSome_iff_exists.mp (native?_of_validate hvalid)
          have hmessage : (g.nextMessage command).toNative = .ok native :=
            Message.toNative_of_native? hnative
          simpa [hfault, Queue.commandFor, Queue.outcomeFor, hmessage, Except.toOption,
            answer_taken] using Course.executed hvalid hopening hnative

section

variable {calls : List Call} {result : Result}

theorem Course.of_error (h : g.Course hardware command calls result)
    (hlimits : hardware.KeepsLimits) {why : Failure} (hwhy : result.outcome = .error why) :
    (why ∈ [.invalidAdapter, .invalidDestination, .invalidCommand, .invalidParameters] ∧
        calls = []) ∨
      why = .hardwareUnavailable ∧ g.validate command.payload = .ok () ∧
        ((∃ native, command.payload.native? g.defaultAdapter = some native ∧
            calls = [.executed native]) ∨
          (∃ fault, hardware.opening = .error fault) ∧ calls = []) := by
  cases h with
  | rejected hinvalid =>
      obtain rfl := Except.error.inj hwhy
      exact .inl ⟨objection_of_validate hinvalid, rfl⟩
  | unopened hvalid hopening =>
      obtain hwhy | ⟨-, field, message, hlimit⟩ := failure_of_resultOf hwhy
      · exact .inr ⟨hwhy, hvalid, .inr ⟨⟨_, hopening⟩, rfl⟩⟩
      · obtain rfl := Outcome.failed.inj hlimit
        exact absurd hopening (hlimits.opening field message)
  | @executed native hvalid hopening hnative =>
      obtain hwhy | ⟨-, field, message, hlimit⟩ := failure_of_resultOf hwhy
      · exact .inr ⟨hwhy, hvalid, .inl ⟨native, hnative, rfl⟩⟩
      · exact absurd (Outcome.ofAnswer_eq_failed_iff.mp hlimit)
          (hlimits.answer _ native field message)

theorem Course.of_ok (h : g.Course hardware command calls result) {data : Data}
    (hdata : result.outcome = .ok data) :
    ∃ native lines, command.payload.native? g.defaultAdapter = some native ∧
      calls = [.executed native] ∧
      hardware.answer g.queue.executed native = .ok (.lines lines) := by
  cases h with
  | rejected hinvalid => contradiction
  | unopened hvalid hopening => contradiction
  | @executed native hvalid hopening hnative =>
      obtain ⟨lines, hlines⟩ := exists_lines_of_resultOf hdata
      exact ⟨native, lines, hnative, rfl, Outcome.ofAnswer_eq_lines_iff.mp hlines⟩

end

end Generic

end CecGateway
