import CecGateway.Proofs.Traffic.Balance
import CecGateway.Proofs.Traffic.Runs

/-!
# The protocol of the queue

Any caller may submit a message or shut the queue at any time, and the worker takes its own steps in
between. What is seen of the worker is always the same word (`queue_keeps_protocol`): it opens the
hardware, has one exchange for each accepted message in turn, and closes the hardware when it stops.
Shutting the queue lets the message in flight end and keeps all others from being taken.
-/

namespace CecGateway

/-- By what a message and its reply are matched. -/
def Message.label (m : Message) : Nat × Kind := (m.seq, m.kind)

def Reply.label (r : Reply) : Nat × Kind := (r.seq, r.kind)

namespace Queue

/-! ## What a step can do -/

/-- The call for a message, if the hardware is open and the message can be handed on. -/
def asking (fault? : Option Fault) (message : Message) : List Event :=
  match fault?, message.toNative with
  | none, .ok command => [.call (.executed command)]
  | _, _ => []

/-- Hardware that could not be opened is not closed. -/
def closing (fault? : Option Fault) : List Event :=
  if fault?.isNone then [.call .closed] else []

/-- A message that has been answered, and the answer that the hardware had for it. -/
structure Exchange where
  message : Message
  answer : Except Fault Response

/-- Only an answer that the hardware was asked for counts. -/
def Exchange.outcome (fault? : Option Fault) (e : Exchange) : Outcome :=
  match fault?, e.message.toNative with
  | some fault, _ => .failed fault
  | none, .error fault => .failed fault
  | none, .ok _ => .ofAnswer e.answer

def Exchange.reply (fault? : Option Fault) (e : Exchange) : Reply :=
  ⟨e.message.seq, e.message.kind, e.outcome fault?⟩

def Exchange.word (fault? : Option Fault) (e : Exchange) : List Event :=
  asking fault? e.message ++ [.reply (e.reply fault?)]

/-- All that a step can do, each case with its guard. -/
inductive Effect (q : Queue) : Step → Queue → List Event → Prop
  | accepted {message : Message} (hopen : q.isShut = false) :
      Effect q (.submit message) { q with waiting := q.waiting ++ [message] } [.accepted message]
  | refused {message : Message} (hshut : q.isShut = true) :
      Effect q (.submit message) q [.refused message]
  | closed : Effect q .shut { q with isShut := true } []
  | started {fault? : Option Fault} {opening : Except Fault Unit} (hworker : q.worker = .starting)
      (hopening : opening = fault?.elim (.ok ()) .error) :
      Effect q (.start opening) { q with worker := .idle fault? } [.call .opened]
  | popped {fault? : Option Fault} {message : Message} {waiting : List Message}
      {given : List NativeCommand} (hworker : q.worker = .idle fault?)
      (hwaiting : q.waiting = message :: waiting) (hopen : q.isShut = false)
      (hgiven : given = (commandFor fault? message).toOption.toList) :
      Effect q .pop
        { q with waiting, worker := .busy fault? message, executed := q.executed ++ given }
        (asking fault? message)
  | answered {fault? : Option Fault} {message : Message} {answer : Except Fault Response}
      (hworker : q.worker = .busy fault? message) :
      Effect q (.finish answer) { q with worker := .idle fault? }
        [.reply (Exchange.reply fault? ⟨message, answer⟩)]
  | stopped {fault? : Option Fault} (hworker : q.worker = .idle fault?) (hshut : q.isShut = true) :
      Effect q .stop { q with worker := .stopped } (closing fault?)

variable {q middle next : Queue} {s : Step} {steps rest : List Step} {events seen more : List Event}
  {fault? : Option Fault} {hardware : Hardware}

theorem effect_of_step (h : q.step s = some (next, events)) : q.Effect s next events := by
  cases s with
  | submit message =>
      cases hshut : q.isShut <;> simp [step, submit?, hshut] at h <;> obtain ⟨rfl, rfl⟩ := h
      · have heffect : q.Effect (.submit message) _ [.accepted message] := .accepted hshut
        simpa [hshut] using heffect
      · exact .refused hshut
  | shut =>
      obtain ⟨rfl, rfl⟩ := Option.some_inj.mp h
      exact .closed
  | start opening =>
      cases hworker : q.worker <;> cases opening <;> simp [step, hworker] at h
      all_goals
        obtain ⟨rfl, rfl⟩ := h
        exact .started hworker rfl
  | pop =>
      cases hworker : q.worker <;> cases hwaiting : q.waiting <;> cases hopen : q.isShut <;>
        simp [step, hworker, hwaiting, hopen] at h
      rename_i fault? message waiting
      have heffect := Effect.popped hworker hwaiting hopen rfl
      cases fault? with
      | some fault =>
          simp only [commandFor, Option.some_inj] at h
          obtain ⟨rfl, rfl⟩ := h
          simpa [asking, commandFor, Except.toOption, hopen] using heffect
      | none =>
          cases hnative : message.toNative <;>
            simp only [commandFor, hnative, Option.some_inj] at h <;> obtain ⟨rfl, rfl⟩ := h <;>
            simpa [asking, commandFor, hnative, Except.toOption, hopen] using heffect
  | finish answer =>
      cases hworker : q.worker <;> simp [step, hworker] at h
      obtain ⟨rfl, rfl⟩ := h
      rename_i fault? message
      have houtcome : outcomeFor fault? message answer =
          Exchange.outcome fault? ⟨message, answer⟩ := by
        cases fault? <;> cases hnative : message.toNative <;>
          simp [outcomeFor, commandFor, Exchange.outcome, hnative]
      rw [houtcome]
      exact .answered hworker
  | stop =>
      cases hworker : q.worker <;> cases hshut : q.isShut <;> simp [step, hworker, hshut] at h
      obtain ⟨rfl, rfl⟩ := h
      simpa [closing, hshut] using Effect.stopped hworker hshut

/-! ## Runs -/

theorem exists_of_run_cons (h : q.run (s :: rest) = some (next, events)) :
    ∃ middle seen more, q.step s = some (middle, seen) ∧ middle.run rest = some (next, more) ∧
      events = seen ++ more := by
  simp only [run, bind, Option.bind_eq_some_iff, pure, Option.some_inj, Prod.mk.injEq] at h
  obtain ⟨⟨middle, seen⟩, hstep, ⟨last, more⟩, hrest, rfl, rfl⟩ := h
  exact ⟨middle, seen, more, hstep, hrest, rfl⟩

theorem run_cons_of_step (hstep : q.step s = some (middle, seen))
    (hrest : middle.run rest = some (next, more)) :
    q.run (s :: rest) = some (next, seen ++ more) := by
  simp [run, hstep, hrest]

/-- What holds at the beginning and survives every effect holds after every run. -/
theorem run_invariant {P : List Step → Queue → List Event → Prop}
    (hstep : ∀ steps q seen s next events, P steps q seen → q.Effect s next events →
      P (steps ++ [s]) next (seen ++ events))
    (hbegin : P steps q seen) (hrun : q.run rest = some (next, events)) :
    P (steps ++ rest) next (seen ++ events) := by
  induction rest generalizing q steps seen events with
  | nil =>
      obtain ⟨rfl, rfl⟩ := Option.some_inj.mp hrun
      simpa using hbegin
  | cons s rest ih =>
      obtain ⟨middle, first, later, hfirst, hrest, rfl⟩ := exists_of_run_cons hrun
      have hmiddle := hstep steps q seen s middle first hbegin (effect_of_step hfirst)
      simpa using ih hmiddle hrest

/-! ## What is seen -/

def acceptances (events : List Event) : List Message :=
  events.filterMap fun
    | .accepted message => some message
    | _ => none

def refusals (events : List Event) : List Message :=
  events.filterMap fun
    | .refused message => some message
    | _ => none

def replies (events : List Event) : List Reply :=
  events.filterMap fun
    | .reply reply => some reply
    | _ => none

def calls (events : List Event) : List Call :=
  events.filterMap fun
    | .call call => some call
    | _ => none

def Event.isWork : Event → Bool
  | .call _ | .reply _ => true
  | .accepted _ | .refused _ => false

/-- What is seen of the worker, calls and replies in their order. -/
def workings (events : List Event) : List Event := events.filter (·.isWork)

def Step.opening? : Step → Option (Except Fault Unit)
  | .start opening => some opening
  | _ => none

def Step.answer? : Step → Option (Except Fault Response)
  | .finish answer => some answer
  | _ => none

def Step.message? : Step → Option Message
  | .submit message => some message
  | _ => none

/-- The message that the worker has taken and not answered. -/
def current (q : Queue) : List Message :=
  match q.worker with
  | .busy _ message => [message]
  | _ => []

section

variable (events more : List Event) (calls : List Call)

@[simp]
theorem acceptances_append :
    acceptances (events ++ more) = acceptances events ++ acceptances more := by
  simp [acceptances]

@[simp]
theorem refusals_append : refusals (events ++ more) = refusals events ++ refusals more := by
  simp [refusals]

@[simp]
theorem replies_append : replies (events ++ more) = replies events ++ replies more := by
  simp [replies]

@[simp]
theorem calls_append : Queue.calls (events ++ more) = Queue.calls events ++ Queue.calls more := by
  simp [Queue.calls]

@[simp]
theorem workings_append : workings (events ++ more) = workings events ++ workings more := by
  simp [workings]

@[simp]
theorem replies_workings : replies (workings events) = replies events := by
  induction events with
  | nil => rfl
  | cons e rest ih => cases e <;> simpa [workings, replies, Event.isWork] using ih

@[simp]
theorem calls_workings : Queue.calls (workings events) = Queue.calls events := by
  induction events with
  | nil => rfl
  | cons e rest ih => cases e <;> simpa [workings, Queue.calls, Event.isWork] using ih

@[simp]
theorem seen_asking (fault? : Option Fault) (message : Message) :
    acceptances (asking fault? message) = [] ∧ replies (asking fault? message) = [] ∧
      workings (asking fault? message) = asking fault? message := by
  unfold asking
  split <;> exact ⟨rfl, rfl, rfl⟩

@[simp]
theorem seen_closing (fault? : Option Fault) :
    acceptances (closing fault?) = [] ∧ replies (closing fault?) = [] ∧
      workings (closing fault?) = closing fault? := by
  unfold closing
  cases fault? <;> exact ⟨rfl, rfl, rfl⟩

end

/-! ## The word of the worker -/

/-- All that has been seen of a worker after these exchanges. -/
def word (fault? : Option Fault) (exchanges : List Exchange) : Worker → List Event
  | .starting => []
  | .idle _ => .call .opened :: exchanges.flatMap (·.word fault?)
  | .busy _ message => .call .opened :: exchanges.flatMap (·.word fault?) ++ asking fault? message
  | .stopped => .call .opened :: exchanges.flatMap (·.word fault?) ++ closing fault?

/-- How a queue that has just been made has come to where it is: `fault?` is the fault with which
opening the hardware failed. -/
structure Traced (fault? : Option Fault) (exchanges : List Exchange) (steps : List Step)
    (q : Queue) (events : List Event) : Prop where
  opening_eq : steps.filterMap (·.opening?) =
    if q.worker = .starting then [] else [fault?.elim (.ok ()) .error]
  answers_eq : steps.filterMap (·.answer?) = exchanges.map (·.answer)
  exchanges_eq_nil : q.worker = .starting → exchanges = []
  idle : ∀ other?, q.worker = .idle other? → other? = fault?
  busy : ∀ other? message, q.worker = .busy other? message → other? = fault?
  accepted_eq : acceptances events = exchanges.map (·.message) ++ q.held
  workings_eq : workings events = word fault? exchanges q.worker
  isShut_iff : q.isShut = true ↔ .shut ∈ steps
  isShut_of_stopped : q.worker = .stopped → q.isShut = true

theorem traced_begin : Traced none [] [] {} [] where
  opening_eq := rfl
  answers_eq := rfl
  exchanges_eq_nil _ := rfl
  idle := by simp
  busy := by simp
  accepted_eq := rfl
  workings_eq := rfl
  isShut_iff := by simp
  isShut_of_stopped := by simp

theorem Effect.traced {exchanges : List Exchange} (h : q.Effect s next events)
    (htraced : Traced fault? exchanges steps q seen) :
    ∃ fault? exchanges, Traced fault? exchanges (steps ++ [s]) next (seen ++ events) := by
  obtain ⟨hopening, hanswers, hnil, hidle, hbusy, haccepted, hworkings, hshut, hstopped⟩ := htraced
  cases h with
  | accepted hopen =>
      refine ⟨fault?, exchanges, ?_, ?_, hnil, hidle, hbusy, ?_, ?_, ?_, hstopped⟩
      · simpa [Step.opening?] using hopening
      · simpa [Step.answer?] using hanswers
      · rw [acceptances_append, haccepted, held_append, List.append_assoc]
        rfl
      · simpa [workings, Event.isWork] using hworkings
      · simpa using hshut
  | refused hclosed =>
      refine ⟨fault?, exchanges, ?_, ?_, hnil, hidle, hbusy, ?_, ?_, ?_, hstopped⟩
      · simpa [Step.opening?] using hopening
      · simpa [Step.answer?] using hanswers
      · simpa [acceptances] using haccepted
      · simpa [workings, Event.isWork] using hworkings
      · simpa using hshut
  | closed =>
      refine ⟨fault?, exchanges, ?_, ?_, hnil, hidle, hbusy, ?_, ?_, by simp, by simp⟩
      · simpa [Step.opening?] using hopening
      · simpa [Step.answer?] using hanswers
      · simpa [held] using haccepted
      · simpa using hworkings
  | @started other? opening hworker heq =>
      obtain rfl := hnil hworker
      refine ⟨other?, [], ?_, ?_, by simp, by simp, by simp, ?_, ?_, ?_, by simp⟩
      · simpa [hworker, Step.opening?, heq] using hopening
      · simpa [Step.answer?] using hanswers
      · simpa [held, hworker, acceptances] using haccepted
      · simpa [workings, Event.isWork, word, hworker] using hworkings
      · simpa using hshut
  | @popped other? message waiting given hworker hwaiting hopen hgiven =>
      obtain rfl := hidle other? hworker
      refine ⟨other?, exchanges, ?_, ?_, by simp, by simp, by simp, ?_, ?_, ?_, by simp⟩
      · simpa [hworker, Step.opening?] using hopening
      · simpa [Step.answer?] using hanswers
      · simpa [held, hworker, hwaiting] using haccepted
      · simp [hworkings, hworker, word]
      · simpa using hshut
  | @answered other? message answer hworker =>
      obtain rfl := hbusy other? message hworker
      refine ⟨other?, exchanges ++ [⟨message, answer⟩], ?_, ?_, by simp, by simp, by simp,
        ?_, ?_, ?_, by simp⟩
      · simpa [hworker, Step.opening?] using hopening
      · rw [List.filterMap_append, hanswers, List.map_append]
        rfl
      · simpa [held, hworker, acceptances] using haccepted
      · rw [workings_append, hworkings, hworker]
        simp [word, Exchange.word, workings, Event.isWork]
      · simpa using hshut
  | @stopped other? hworker hclosed =>
      obtain rfl := hidle other? hworker
      refine ⟨other?, exchanges, ?_, ?_, by simp, by simp, by simp, ?_, ?_, ?_, fun _ => hclosed⟩
      · simpa [hworker, Step.opening?] using hopening
      · simpa [Step.answer?] using hanswers
      · simpa [held, hworker] using haccepted
      · simp [hworkings, hworker, word]
      · simpa using hshut

theorem Traced.run {exchanges : List Exchange} (h : Traced fault? exchanges steps q seen)
    (hrun : q.run rest = some (next, events)) :
    ∃ fault? exchanges, Traced fault? exchanges (steps ++ rest) next (seen ++ events) := by
  refine run_invariant
    (P := fun steps q seen => ∃ fault? exchanges, Traced fault? exchanges steps q seen)
    (fun steps q seen s next events htraced heffect => ?_) ⟨fault?, exchanges, h⟩ hrun
  obtain ⟨fault?, exchanges, htraced⟩ := htraced
  exact heffect.traced htraced

/-! ## After the end has begun -/

/-- What comes of a queue that is shut. -/
structure Ending (q : Queue) (later : List Step) (next : Queue) (more : List Event) : Prop where
  isShut : next.isShut = true
  pop_not_mem : .pop ∉ later
  waiting_eq : next.waiting = q.waiting
  accepted_eq : acceptances more = []
  refused_eq : refusals more = later.filterMap (·.message?)
  /-- The message in flight is answered, and no other. -/
  replies_eq : (replies more).map (·.label) ++ next.current.map (·.label) =
    q.current.map (·.label)
  shut_again : next.step .shut = some (next, [])

theorem step_shut (hshut : q.isShut = true) : q.step .shut = some (q, []) := by
  obtain ⟨waiting, isShut, worker, executed⟩ := q
  obtain rfl : isShut = true := hshut
  rfl

theorem Effect.ending (h : middle.Effect s next events) (hending : q.Ending steps middle seen) :
    q.Ending (steps ++ [s]) next (seen ++ events) := by
  obtain ⟨hshut, hpop, hwaiting, haccepted, hrefused, hreplies, -⟩ := hending
  cases h with
  | accepted hopen => simp [hshut] at hopen
  | popped hworker hnext hopen => simp [hshut] at hopen
  | refused =>
      refine ⟨hshut, by simp [hpop], hwaiting, by simpa [acceptances] using haccepted, ?_, ?_, ?_⟩
      · rw [refusals_append, hrefused, List.filterMap_append]
        rfl
      · simpa [replies] using hreplies
      · exact step_shut hshut
  | closed =>
      refine ⟨rfl, by simp [hpop], hwaiting, by simp [haccepted], ?_, ?_, ?_⟩
      · simpa [Step.message?] using hrefused
      · simpa [current] using hreplies
      · exact step_shut rfl
  | started hworker =>
      refine ⟨hshut, by simp [hpop], hwaiting, by simpa [acceptances] using haccepted, ?_, ?_, ?_⟩
      · simpa [Step.message?, refusals] using hrefused
      · simpa [current, hworker, replies] using hreplies
      · exact step_shut hshut
  | @answered fault? message answer hworker =>
      refine ⟨hshut, by simp [hpop], hwaiting, by simpa [acceptances] using haccepted, ?_, ?_, ?_⟩
      · simpa [Step.message?, refusals] using hrefused
      · simpa [current, hworker, replies, Exchange.reply, Reply.label, Message.label] using hreplies
      · exact step_shut hshut
  | @stopped fault? hworker =>
      refine ⟨hshut, by simp [hpop], hwaiting, by simp [haccepted], ?_, ?_, ?_⟩
      · rw [refusals_append, hrefused, List.filterMap_append]
        cases fault? <;> rfl
      · simpa [current, hworker] using hreplies
      · exact step_shut hshut

theorem ending_of_run (hshut : q.isShut = true) (hrun : q.run rest = some (next, events)) :
    q.Ending rest next events := by
  have hbegin : q.Ending [] q [] := ⟨hshut, by simp, rfl, rfl, rfl, rfl, step_shut hshut⟩
  simpa using run_invariant (P := q.Ending)
    (fun _ _ _ _ _ _ hending heffect => heffect.ending hending) hbegin hrun

/-! ## The worker goes on -/

theorem Effect.workLeft_lt (h : q.Effect s next events) (hwork : s.isWork) :
    next.workLeft < q.workLeft := by
  cases h with
  | accepted | refused | closed => contradiction
  | started hworker => simp [workLeft, hworker]
  | popped hworker hwaiting =>
      simp [workLeft, hworker, hwaiting]
      omega
  | answered hworker => simp [workLeft, hworker]
  | stopped hworker => simp [workLeft, hworker]

theorem Effect.of_isWork (h : q.Effect s next events) (hwork : s.isWork) :
    next.isShut = q.isShut ∧ acceptances events = [] := by
  cases h with
  | accepted | refused | closed => contradiction
  | started | answered => exact ⟨rfl, rfl⟩
  | @popped fault? message => exact ⟨rfl, (seen_asking fault? message).1⟩
  | @stopped fault? => exact ⟨rfl, (seen_closing fault?).1⟩

/-- Letting the worker go on is a run of its own steps, after which nothing is due. -/
theorem exists_run_of_settle_go (hardware : Hardware) (isHeld : Bool) {fuel : Nat} (q : Queue)
    (hfuel : q.workLeft < fuel) :
    ∃ steps, q.run steps = some (settle.go hardware isHeld fuel q) ∧
      (settle.go hardware isHeld fuel q).1.isShut = q.isShut ∧
      acceptances (settle.go hardware isHeld fuel q).2 = [] ∧
      (settle.go hardware isHeld fuel q).1.due hardware isHeld = none := by
  induction fuel generalizing q with
  | zero => omega
  | succ fuel ih =>
      unfold settle.go
      cases hdue : q.due hardware isHeld with
      | none => exact ⟨[], rfl, rfl, rfl, hdue⟩
      | some s =>
          obtain ⟨⟨middle, seen⟩, hstep⟩ := exists_step_of_due hdue
          have hwork := isWork_of_due hdue
          have heffect := effect_of_step hstep
          have hless := heffect.workLeft_lt hwork
          obtain ⟨hkept, hnothing⟩ := heffect.of_isWork hwork
          obtain ⟨steps, hrun, hshut, haccepted, hrest⟩ := ih middle (by omega)
          simp only [Option.bind_some, hstep]
          refine ⟨s :: steps, run_cons_of_step hstep hrun, hshut.trans hkept, ?_, hrest⟩
          rw [acceptances_append, hnothing, haccepted]
          rfl

theorem exists_run_of_settle (hardware : Hardware) (isHeld : Bool) (q : Queue) :
    ∃ steps, q.run steps = some (q.settle hardware isHeld) ∧
      (q.settle hardware isHeld).1.isShut = q.isShut ∧
      acceptances (q.settle hardware isHeld).2 = [] ∧
      (q.settle hardware isHeld).1.due hardware isHeld = none :=
  exists_run_of_settle_go hardware isHeld q q.workLeft_lt_stepsLeft

theorem stopped_of_due (hdue : q.due hardware false = none) (hshut : q.isShut = true) :
    q.worker = .stopped := by
  unfold due at hdue
  cases hworker : q.worker <;> simp [hworker, hshut] at hdue ⊢

theorem held_eq_nil_of_due (hdue : q.due hardware false = none) (hopen : q.isShut = false)
    (hrunning : q.worker ≠ .stopped) : q.held = [] := by
  obtain ⟨fault?, hworker, hwaiting⟩ := idle_of_due hdue hopen hrunning
  simp [held, hworker, hwaiting]

/-! ## The protocol -/

section

variable (fault? : Option Fault) (exchanges : List Exchange)

theorem replies_exchanges :
    replies (exchanges.flatMap (·.word fault?)) = exchanges.map (·.reply fault?) := by
  induction exchanges with
  | nil => rfl
  | cons e rest ih =>
      rw [List.flatMap_cons, replies_append, ih, Exchange.word, replies_append,
        (seen_asking fault? e.message).2.1]
      rfl

theorem calls_asking (message : Message) :
    Queue.calls (asking none message) = message.toNative.toOption.toList.map .executed := by
  unfold asking
  cases hnative : message.toNative <;> rfl

theorem calls_exchanges :
    Queue.calls (exchanges.flatMap (·.word none)) =
      (exchanges.filterMap (·.message.toNative.toOption)).map .executed := by
  induction exchanges with
  | nil => rfl
  | cons e rest ih =>
      have hreply : Queue.calls [.reply (e.reply none)] = [] := rfl
      rw [List.flatMap_cons, calls_append, ih, Exchange.word, calls_append, calls_asking, hreply]
      cases hnative : e.message.toNative.toOption <;> simp [hnative]

theorem calls_exchanges_of_fault (fault : Fault) :
    Queue.calls (exchanges.flatMap (·.word (some fault))) = [] := by
  induction exchanges with
  | nil => rfl
  | cons e rest ih => simpa [Exchange.word, asking, Queue.calls] using ih

end

/-- What has been seen of a queue since it was made. -/
structure Protocol (fault? : Option Fault) (exchanges : List Exchange) (steps : List Step)
    (q : Queue) (events : List Event) : Prop where
  /-- The hardware is opened once, when the worker starts. -/
  opening_eq : steps.filterMap (·.opening?) =
    if q.worker = .starting then [] else [fault?.elim (.ok ()) .error]
  answers_eq : steps.filterMap (·.answer?) = exchanges.map (·.answer)
  /-- What has been accepted is answered in turn or still held, -/
  accepted_eq : acceptances events = exchanges.map (·.message) ++ q.held
  /-- so the replies follow the accepted messages. -/
  replies_prefix : (replies events).map (·.label) <+: (acceptances events).map (·.label)
  /-- The exchanges come one after another, between opening and closing. -/
  workings_eq : workings events = word fault? exchanges q.worker
  /-- The calls alone: one for each message that has been taken and can be handed on, -/
  calls_of_opened : .start (.ok ()) ∈ steps → Queue.calls events =
    .opened :: ((exchanges.map (·.message) ++ q.current).filterMap
      (·.toNative.toOption)).map .executed ++ if q.worker = .stopped then [.closed] else []
  /-- or none at all, if the hardware could not be opened. -/
  calls_of_unopened : ∀ fault, .start (.error fault) ∈ steps → Queue.calls events = [.opened] ∧
    ∀ reply ∈ replies events, reply.outcome = .failed fault
  isShut_iff : q.isShut = true ↔ .shut ∈ steps
  /-- The worker stops for nothing but the end, -/
  isShut_of_stopped : q.worker = .stopped → q.isShut = true
  /-- and until then it goes on to answer all that has been accepted. -/
  settles : ∀ hardware, q.isShut = false →
    (replies (q.settle hardware false).2).map (·.label) = q.held.map (·.label)
  /-- Once the queue is shut, only the message in flight is answered, -/
  ending : q.isShut = true → ∀ later next more, q.run later = some (next, more) →
    q.Ending later next more
  /-- and then the worker stops. -/
  stops : ∀ hardware, q.isShut = true → (q.settle hardware false).1.worker = .stopped ∧
    (replies (q.settle hardware false).2).map (·.label) = q.current.map (·.label)

theorem Traced.eq_of_started {exchanges : List Exchange} {opening : Except Fault Unit}
    (htraced : Traced fault? exchanges steps q events) (hmem : .start opening ∈ steps) :
    q.worker ≠ .starting ∧ opening = fault?.elim (.ok ()) .error := by
  have hopening : opening ∈ steps.filterMap (·.opening?) :=
    List.mem_filterMap.mpr ⟨_, hmem, rfl⟩
  rw [htraced.opening_eq] at hopening
  split at hopening
  · simp at hopening
  · rename_i hstarted
    exact ⟨hstarted, List.mem_singleton.mp hopening⟩

theorem Traced.replies_eq {exchanges : List Exchange}
    (htraced : Traced fault? exchanges steps q events) :
    replies events = exchanges.map (·.reply fault?) := by
  rw [← replies_workings, htraced.workings_eq]
  cases hworker : q.worker with
  | starting => rw [htraced.exchanges_eq_nil hworker]; rfl
  | idle => exact replies_exchanges fault? exchanges
  | busy other? message =>
      rw [word, replies_append, (seen_asking fault? message).2.1, List.append_nil]
      exact replies_exchanges fault? exchanges
  | stopped =>
      rw [word, replies_append, (seen_closing fault?).2.1, List.append_nil]
      exact replies_exchanges fault? exchanges

theorem Traced.calls_eq {exchanges : List Exchange} (htraced : Traced none exchanges steps q events)
    (hstarted : q.worker ≠ .starting) :
    Queue.calls events = .opened :: ((exchanges.map (·.message) ++ q.current).filterMap
      (·.toNative.toOption)).map .executed ++ if q.worker = .stopped then [.closed] else [] := by
  have hopened (later : List Event) :
      Queue.calls (.call .opened :: later) = .opened :: Queue.calls later := rfl
  have hpast : (exchanges.map (·.message)).filterMap (·.toNative.toOption) =
      exchanges.filterMap (·.message.toNative.toOption) := List.filterMap_map
  rw [← calls_workings, htraced.workings_eq, List.filterMap_append, hpast, List.map_append]
  cases hworker : q.worker with
  | starting => contradiction
  | idle => simp [word, hopened, calls_exchanges, current, hworker]
  | busy other? message =>
      simp only [word, List.cons_append, hopened, calls_append, calls_exchanges, calls_asking,
        current, hworker]
      cases hnative : message.toNative.toOption <;> simp [hnative]
  | stopped =>
      have hclosing : Queue.calls (closing none) = [.closed] := rfl
      simp [word, hopened, calls_exchanges, current, hworker, hclosing]

theorem Traced.calls_eq_of_fault {fault : Fault} {exchanges : List Exchange}
    (htraced : Traced (some fault) exchanges steps q events) (hstarted : q.worker ≠ .starting) :
    Queue.calls events = [.opened] := by
  have hopened (later : List Event) :
      Queue.calls (.call .opened :: later) = .opened :: Queue.calls later := rfl
  have hnothing := calls_exchanges_of_fault exchanges fault
  rw [← calls_workings, htraced.workings_eq]
  cases hworker : q.worker with
  | starting => contradiction
  | idle => rw [word, hopened, hnothing]
  | busy | stopped => rw [word, List.cons_append, hopened, calls_append, hnothing]; rfl

theorem Traced.labels_eq {exchanges : List Exchange}
    (htraced : Traced fault? exchanges steps q events) :
    (replies events).map (·.label) ++ q.held.map (·.label) =
      (acceptances events).map (·.label) := by
  rw [htraced.replies_eq, htraced.accepted_eq, List.map_append, List.map_map, List.map_map]
  rfl

theorem Traced.settles {exchanges : List Exchange}
    (htraced : Traced fault? exchanges steps q events) (hardware : Hardware)
    (hopen : q.isShut = false) :
    (replies (q.settle hardware false).2).map (·.label) = q.held.map (·.label) := by
  obtain ⟨later, hrun, hkept, hnothing, hdue⟩ := exists_run_of_settle hardware false q
  generalize q.settle hardware false = settled at *
  obtain ⟨next, more⟩ := settled
  obtain ⟨_, _, hsettled⟩ := htraced.run hrun
  have hstill := hkept.trans hopen
  have hheld : next.held = [] :=
    held_eq_nil_of_due hdue hstill fun hstopped =>
      Bool.false_ne_true (hstill.symm.trans (hsettled.isShut_of_stopped hstopped))
  -- no message has come since, so the replies make up for what was held
  have hlabels := hsettled.labels_eq
  rw [hheld, acceptances_append, hnothing, List.append_nil, ← htraced.labels_eq, replies_append,
    List.map_append, List.append_assoc] at hlabels
  simpa using List.append_cancel_left hlabels

theorem stops_of_isShut (hshut : q.isShut = true) :
    (q.settle hardware false).1.worker = .stopped ∧
      (replies (q.settle hardware false).2).map (·.label) = q.current.map (·.label) := by
  obtain ⟨later, hrun, hkept, -, hdue⟩ := exists_run_of_settle hardware false q
  generalize q.settle hardware false = settled at *
  obtain ⟨next, more⟩ := settled
  have hstopped : next.worker = .stopped := stopped_of_due hdue (hkept.trans hshut)
  refine ⟨hstopped, ?_⟩
  have hreplies := (ending_of_run hshut hrun).replies_eq
  simpa [current, hstopped] using hreplies

theorem Traced.protocol {exchanges : List Exchange}
    (htraced : Traced fault? exchanges steps q events) :
    Protocol fault? exchanges steps q events where
  opening_eq := htraced.opening_eq
  answers_eq := htraced.answers_eq
  accepted_eq := htraced.accepted_eq
  replies_prefix := ⟨_, htraced.labels_eq⟩
  workings_eq := htraced.workings_eq
  calls_of_opened hmem := by
    obtain ⟨hstarted, hopening⟩ := htraced.eq_of_started hmem
    obtain rfl : fault? = none := by cases fault? <;> simp at hopening ⊢
    exact htraced.calls_eq hstarted
  calls_of_unopened fault hmem := by
    obtain ⟨hstarted, hopening⟩ := htraced.eq_of_started hmem
    obtain rfl : fault? = some fault := by
      cases fault? <;> simp at hopening ⊢
      exact hopening.symm
    refine ⟨htraced.calls_eq_of_fault hstarted, fun reply hreply => ?_⟩
    rw [htraced.replies_eq] at hreply
    obtain ⟨e, -, rfl⟩ := List.mem_map.mp hreply
    rfl
  isShut_iff := htraced.isShut_iff
  isShut_of_stopped := htraced.isShut_of_stopped
  settles := htraced.settles
  ending hshut later next more hrun := ending_of_run hshut hrun
  stops _ hshut := stops_of_isShut hshut

/-- Whatever is submitted, whatever the hardware answers and whenever the queue is shut, the worker
keeps to its protocol. -/
theorem queue_keeps_protocol {steps : List Step} {q : Queue} {events : List Event}
    (hrun : run {} steps = some (q, events)) :
    ∃ fault? exchanges, Protocol fault? exchanges steps q events := by
  obtain ⟨fault?, exchanges, htraced⟩ := traced_begin.run hrun
  exact ⟨fault?, exchanges, htraced.protocol⟩

/-- The second message cannot be handed on, and the queue is shut while the third is in flight. -/
def shutInFlight : List Step :=
  [.submit ⟨1, .listAdapters, []⟩, .start (.ok ()), .submit ⟨2, .scan, [⟨"two words", ""⟩]⟩, .pop,
    .submit ⟨3, .scan, []⟩, .finish (.ok (.lines [])), .pop, .finish (.ok .notImplemented), .pop,
    .submit ⟨4, .listAdapters, []⟩, .shut, .submit ⟨5, .scan, []⟩,
    .finish (.error (.nonZeroExit "scan" 1)), .shut, .stop]

theorem shutInFlight_keeps_protocol :
    ∃ q events, run {} shutInFlight = some (q, events) ∧
      Queue.calls events =
        [.opened, .executed ⟨"listAdapters", []⟩, .executed ⟨"scan", []⟩, .closed] ∧
      (replies events).map (·.label) = [(1, .listAdapters), (2, .scan), (3, .scan)] ∧
      q.waiting.map (·.label) = [(4, .listAdapters)] ∧
      ∃ fault? exchanges, Protocol fault? exchanges shutInFlight q events :=
  ⟨_, _, rfl, by decide, by decide, by decide, queue_keeps_protocol rfl⟩

end Queue

end CecGateway
