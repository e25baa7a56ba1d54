import CecGateway.Generic
import Mathlib.Data.List.Basic

/-!
# Traffic through the generic handler

Calls of the generic handler run side by side, each in steps of its own, while the worker of its
queue takes messages off and replies to them, and until the handler is dropped. `Traffic` is the
handler together with the calls under way; a list of steps is a schedule, and `History.follow` says
what comes of it. Nothing keeps a step back but its own precondition, so a handler may even be
dropped while calls are under way. `Effect` lists all that a step can do.
-/

namespace CecGateway

def Queue.Step.isWork : Queue.Step → Bool
  | .submit _ | .shut => false
  | .start _ | .pop | .finish _ | .stop => true

/-- How far a call has come whose command has passed validation. -/
inductive Progress
  | validated
  | numbered (seq : Nat)
  | recorded (seq : Nat)
  deriving DecidableEq, Repr

structure Caller where
  command : Command
  progress : Progress := .validated
  deriving DecidableEq, Repr

structure Traffic where
  handler : Generic
  callers : List Caller := []
  /-- All commands that have been offered, oldest first. -/
  offered : List Command := []
  isDropped : Bool := false
  deriving DecidableEq, Repr

namespace Traffic

inductive Step
  /-- A call begins: its command is validated, and completed at once if it is not valid. -/
  | offer (command : Command)
  /-- The call at this place gets its number, then records its command, then submits it. -/
  | advance (place : Nat)
  | subscribe
  | work (step : Queue.Step)
  | shut
  /-- The worker has stopped, and what is still pending fails. -/
  | abandon

def enter (t : Traffic) (command : Command) : Traffic × List Event :=
  match t.handler.validate command.payload with
  | .error why =>
    ({ t with offered := t.offered ++ [command] },
      [Generic.fail why command.payload.kind command])
  | .ok () =>
    ({ t with
      offered := t.offered ++ [command], callers := t.callers ++ [⟨command, .validated⟩] }, [])

def proceed (t : Traffic) (place : Nat) (caller : Caller) : Traffic × List Event :=
  let moved (progress : Progress) : List Caller := t.callers.set place { caller with progress }
  match caller.progress with
  | .validated =>
    let (seq, handler) := t.handler.allocate
    ({ t with handler, callers := moved (.numbered seq) }, [])
  | .numbered seq =>
    ({ t with handler := t.handler.record seq caller.command, callers := moved (.recorded seq) },
      [])
  | .recorded seq =>
    let (handler, events) := t.handler.submit seq caller.command.payload
    ({ t with handler, callers := t.callers.eraseIdx place }, events)

def step (t : Traffic) : Step → Option (Traffic × List Event)
  | .offer command => some (t.enter command)
  | .advance place => t.callers[place]?.map (t.proceed place)
  | .subscribe => some ({ t with handler := t.handler.subscribe }, [])
  | .work s =>
    if s.isWork then (t.handler.work s).map fun (handler, events) => ({ t with handler }, events)
    else none
  | .shut => some ({ t with handler := t.handler.shut }, [])
  | .abandon =>
    if t.handler.queue.worker = .stopped then
      let (handler, events) := t.handler.abandon
      some ({ t with handler, isDropped := true }, events)
    else none

/-! ## What a step can do -/

section

variable (t : Traffic)

def withQueue (queue : Queue) : Traffic := { t with handler := { t.handler with queue } }

/-- The handler once the worker has got over a message. -/
def afterwards (fault? : Option Fault) : Generic :=
  { t.handler with queue := { t.handler.queue with worker := .idle fault? } }

@[simp]
theorem afterwards_queue (fault? : Option Fault) :
    (t.afterwards fault?).queue = { t.handler.queue with worker := .idle fault? } := rfl

/-- All that a step can do, each case with its guard. -/
inductive Effect : Step → Traffic → List Event → Prop
  | rejected {command : Command} {why : Failure}
      (hinvalid : t.handler.validate command.payload = .error why) :
      Effect (.offer command) { t with offered := t.offered ++ [command] }
        [Generic.fail why command.payload.kind command]
  | entered {command : Command} (hvalid : t.handler.validate command.payload = .ok ()) :
      Effect (.offer command)
        { t with
          offered := t.offered ++ [command]
          callers := t.callers ++ [⟨command, .validated⟩] } []
  | numbered {before after : List Caller} {command : Command}
      (hcallers : t.callers = before ++ ⟨command, .validated⟩ :: after) :
      Effect (.advance before.length)
        { t with
          handler := t.handler.allocate.2
          callers := before ++ ⟨command, .numbered t.handler.allocate.1⟩ :: after } []
  | recorded {before after : List Caller} {command : Command} {seq : Nat}
      (hcallers : t.callers = before ++ ⟨command, .numbered seq⟩ :: after) :
      Effect (.advance before.length)
        { t with
          handler := t.handler.record seq command
          callers := before ++ ⟨command, .recorded seq⟩ :: after } []
  | submitted {before after : List Caller} {command : Command} {seq : Nat}
      (hcallers : t.callers = before ++ ⟨command, .recorded seq⟩ :: after)
      (hopen : t.handler.queue.isShut = false) :
      Effect (.advance before.length)
        { t.withQueue { t.handler.queue with
            waiting := t.handler.queue.waiting ++ [t.handler.messageOf seq command.payload] } with
          callers := before ++ after } []
  | refused {before after : List Caller} {command : Command} {seq : Nat} {p : Pending}
      (hcallers : t.callers = before ++ ⟨command, .recorded seq⟩ :: after)
      (hshut : t.handler.queue.isShut = true) (hpending : t.handler.pending? seq = some p) :
      Effect (.advance before.length)
        { t with handler := t.handler.forget seq, callers := before ++ after }
        [Generic.fail .hardwareUnavailable command.payload.kind p.command]
  | bereft {before after : List Caller} {command : Command} {seq : Nat}
      (hcallers : t.callers = before ++ ⟨command, .recorded seq⟩ :: after)
      (hshut : t.handler.queue.isShut = true) (hpending : t.handler.pending? seq = none) :
      Effect (.advance before.length) { t with callers := before ++ after } []
  | subscribed : Effect .subscribe { t with handler := t.handler.subscribe } []
  | started {fault? : Option Fault} {opening : Except Fault Unit}
      (hworker : t.handler.queue.worker = .starting)
      (hopening : opening = fault?.elim (.ok ()) .error) :
      Effect (.work (.start opening))
        (t.withQueue { t.handler.queue with worker := .idle fault? }) [.call .opened]
  | popped {fault? : Option Fault} {message : Message} {waiting : List Message}
      {given : List NativeCommand}
      (hworker : t.handler.queue.worker = .idle fault?)
      (hwaiting : t.handler.queue.waiting = message :: waiting)
      (hopen : t.handler.queue.isShut = false)
      (hgiven : given = (Queue.commandFor fault? message).toOption.toList) :
      Effect (.work .pop)
        (t.withQueue { t.handler.queue with
          waiting, worker := .busy fault? message
          executed := t.handler.queue.executed ++ given })
        (given.map fun command => .call (.executed command))
  | answered {fault? : Option Fault} {message : Message} {answer : Except Fault Response}
      {p : Pending} {result : Result}
      (hworker : t.handler.queue.worker = .busy fault? message)
      (hpending : t.handler.pending? message.seq = some p)
      (hresult : result = Generic.resultOf p (Queue.outcomeFor fault? message answer)) :
      Effect (.work (.finish answer))
        { t with handler := (((t.afterwards fault?).forget message.seq).apply result).1 }
        ((((t.afterwards fault?).forget message.seq).apply result).2 ++
          [.completed p.command.ticket result])
  | unmatched {fault? : Option Fault} {message : Message} {answer : Except Fault Response}
      (hworker : t.handler.queue.worker = .busy fault? message)
      (hpending : t.handler.pending? message.seq = none) :
      Effect (.work (.finish answer)) { t with handler := t.afterwards fault? } []
  | stopped {fault? : Option Fault} {calls : List Call}
      (hworker : t.handler.queue.worker = .idle fault?)
      (hshut : t.handler.queue.isShut = true)
      (hcalls : calls = if fault?.isNone then [.closed] else []) :
      Effect (.work .stop) (t.withQueue { t.handler.queue with worker := .stopped })
        (calls.map .call)
  | closed : Effect .shut (t.withQueue { t.handler.queue with isShut := true }) []
  | abandoned (hworker : t.handler.queue.worker = .stopped) :
      Effect .abandon { t with handler := { t.handler with pending := [] }, isDropped := true }
        (t.handler.pending.map fun p => Generic.fail .hardwareUnavailable p.kind p.command)

end

variable {t next : Traffic} {s : Step} {events : List Event}

theorem enter_effect (t : Traffic) (command : Command) :
    t.Effect (.offer command) (t.enter command).1 (t.enter command).2 := by
  unfold enter
  cases hvalidate : t.handler.validate command.payload with
  | error why => exact .rejected hvalidate
  | ok => exact .entered hvalidate

theorem proceed_effect {place : Nat} {caller : Caller} (hplace : t.callers[place]? = some caller) :
    t.Effect (.advance place) (t.proceed place caller).1 (t.proceed place caller).2 := by
  obtain ⟨before, after, hcallers, rfl⟩ : ∃ before after : List Caller,
      t.callers = before ++ caller :: after ∧ before.length = place := by
    obtain ⟨hlt, hget⟩ := List.getElem?_eq_some_iff.mp hplace
    refine ⟨t.callers.take place, t.callers.drop (place + 1), ?_, ?_⟩
    · rw [← hget, List.getElem_cons_drop, List.take_append_drop]
    · rw [List.length_take]
      omega
  obtain ⟨command, progress⟩ := caller
  cases progress with
  | validated =>
      simpa [proceed, hcallers] using Effect.numbered hcallers
  | numbered seq =>
      simpa [proceed, hcallers] using Effect.recorded hcallers
  | recorded seq =>
      have herase : t.callers.eraseIdx before.length = before ++ after := by
        rw [hcallers, List.eraseIdx_append_of_length_le (Nat.le_refl _)]
        simp
      cases hshut : t.handler.queue.isShut with
      | false =>
          simpa [proceed, Generic.submit, Queue.submit?, herase, hshut, withQueue] using
            Effect.submitted hcallers hshut
      | true =>
          cases hpending : t.handler.pending? seq with
          | none =>
              simpa [proceed, Generic.submit, Queue.submit?, herase, hshut, hpending] using
                Effect.bereft hcallers hshut hpending
          | some p =>
              simpa [proceed, Generic.submit, Queue.submit?, herase, hshut, hpending] using
                Effect.refused hcallers hshut hpending

theorem work_effect {step : Queue.Step} {handler : Generic} (hwork : step.isWork)
    (h : t.handler.work step = some (handler, events)) :
    t.Effect (.work step) { t with handler } events := by
  cases step with
  | submit message => contradiction
  | shut => contradiction
  | start opening =>
      cases hworker : t.handler.queue.worker <;> cases opening <;>
        simp [Generic.work, Queue.step, hworker, Generic.onQueueEvents, Generic.onQueueEvent] at h
      all_goals
        obtain ⟨rfl, rfl⟩ := h
        exact .started hworker rfl
  | pop =>
      cases hworker : t.handler.queue.worker <;> cases hwaiting : t.handler.queue.waiting <;>
        cases hopen : t.handler.queue.isShut <;>
        simp [Generic.work, Queue.step, hworker, hwaiting, hopen] at h
      rename_i fault? message waiting
      have heffect := Effect.popped hworker hwaiting hopen rfl
      cases hgiven : Queue.commandFor fault? message <;>
        simp [hgiven, Generic.onQueueEvents, Generic.onQueueEvent] at h <;>
        obtain ⟨rfl, rfl⟩ := h <;>
        simpa [hgiven, Except.toOption, withQueue, hopen] using heffect
  | finish answer =>
      cases hworker : t.handler.queue.worker with
      | busy fault? message =>
          have hreply : t.handler.work (.finish answer) =
              some ((t.afterwards fault?).onReply
                ⟨message.seq, message.kind, Queue.outcomeFor fault? message answer⟩) := by
            simp [Generic.work, Queue.step, hworker, Generic.onQueueEvents_singleton,
              Generic.onQueueEvent, afterwards]
          rw [hreply, Option.some_inj] at h
          cases hpending : t.handler.pending? message.seq with
          | none =>
              have hafter : (t.afterwards fault?).pending? message.seq = none := hpending
              rw [Generic.onReply_of_none hafter] at h
              obtain ⟨rfl, rfl⟩ := h
              exact .unmatched hworker hpending
          | some p =>
              have hafter : (t.afterwards fault?).pending? message.seq = some p := hpending
              rw [Generic.onReply_of_some hafter] at h
              obtain ⟨rfl, rfl⟩ := h
              exact .answered hworker hpending rfl
      | starting => simp [Generic.work, Queue.step, hworker] at h
      | idle fault? => simp [Generic.work, Queue.step, hworker] at h
      | stopped => simp [Generic.work, Queue.step, hworker] at h
  | stop =>
      cases hworker : t.handler.queue.worker <;> cases hshut : t.handler.queue.isShut <;>
        simp [Generic.work, Queue.step, hworker, hshut] at h
      rename_i fault?
      have heffect := Effect.stopped hworker hshut rfl
      cases fault? <;> simp [Generic.onQueueEvents, Generic.onQueueEvent] at h <;>
        obtain ⟨rfl, rfl⟩ := h <;> simpa [withQueue, hshut] using heffect

theorem effect_of_step (h : t.step s = some (next, events)) : t.Effect s next events := by
  cases s with
  | offer command =>
      have heffect := enter_effect t command
      rwa [Option.some_inj.mp h] at heffect
  | advance place =>
      obtain ⟨caller, hplace, hproceed⟩ := Option.map_eq_some_iff.mp h
      have heffect := proceed_effect hplace
      rwa [hproceed] at heffect
  | subscribe =>
      obtain ⟨rfl, rfl⟩ := Option.some_inj.mp h
      exact .subscribed
  | work step =>
      simp only [Traffic.step] at h
      split at h
      · rename_i hwork
        obtain ⟨⟨handler, seen⟩, hstep, hnext⟩ := Option.map_eq_some_iff.mp h
        obtain ⟨rfl, rfl⟩ := hnext
        exact work_effect hwork hstep
      · contradiction
  | shut =>
      obtain ⟨rfl, rfl⟩ := Option.some_inj.mp h
      exact .closed
  | abandon =>
      simp only [Traffic.step] at h
      split at h
      · rename_i hworker
        obtain ⟨rfl, rfl⟩ := Option.some_inj.mp h
        exact .abandoned hworker
      · contradiction

end Traffic

/-! ## Histories -/

/-- A step that was taken: before what, and what it let others see. -/
structure Moment where
  before : Traffic
  step : Traffic.Step
  events : List Event

def Moment.completions (m : Moment) : List (Nat × Result) := Event.completions m.events

/-- Traffic and how it has come about, oldest moment first. -/
structure History where
  now : Traffic
  past : List Moment := []

namespace History

def begin (defaultAdapter : String) : History := { now := { handler := { defaultAdapter } } }

/-- Takes a step; one that is not possible now is left out. -/
def extend (h : History) (s : Traffic.Step) : History :=
  match h.now.step s with
  | none => h
  | some (now, events) => ⟨now, h.past ++ [⟨h.now, s, events⟩]⟩

def follow (h : History) (schedule : List Traffic.Step) : History := schedule.foldl extend h

def events (h : History) : List Event := h.past.flatMap (·.events)

def completions (h : History) : List (Nat × Result) := h.past.flatMap (·.completions)

def completed (h : History) : List Nat := h.completions.map (·.1)

/-- What holds at the beginning and survives every effect holds after every schedule. -/
theorem follow_invariant {P : History → Prop}
    (hstep : ∀ h s next events, P h → h.now.Effect s next events →
      P ⟨next, h.past ++ [⟨h.now, s, events⟩]⟩)
    {h : History} (hbegin : P h) (schedule : List Traffic.Step) : P (h.follow schedule) := by
  induction schedule generalizing h with
  | nil => exact hbegin
  | cons s rest ih =>
      apply ih
      unfold extend
      cases hnext : h.now.step s with
      | none => exact hbegin
      | some pair =>
          obtain ⟨next, events⟩ := pair
          exact hstep h s next events hbegin (Traffic.effect_of_step hnext)

end History

/-- What happens to a handler that is built with a default adapter and then used by a schedule. -/
def history (defaultAdapter : String) (schedule : List Traffic.Step) : History :=
  (History.begin defaultAdapter).follow schedule

end CecGateway
