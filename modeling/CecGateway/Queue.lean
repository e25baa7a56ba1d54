import CecGateway.Hardware
import CecGateway.Message

/-!
# The command queue

Messages wait in a queue for one worker, which opens the hardware, has it execute one command at a
time and closes it at the end. The queue advances in steps: any caller may submit a message or shut
the queue, and the worker takes the steps that `due` names. Every interleaving of such steps is a
run of the queue.
-/

namespace CecGateway

inductive Outcome
  | lines (lines : List String)
  | notImplemented
  | failed (fault : Fault)
  deriving DecidableEq, Repr

def Outcome.ofAnswer : Except Fault Response → Outcome
  | .ok (.lines text) => lines text
  | .ok .notImplemented => notImplemented
  | .error fault => failed fault

structure Reply where
  seq : Nat
  kind : Kind
  outcome : Outcome
  deriving DecidableEq, Repr

/-- What the worker is doing; `fault?` is the fault with which opening the hardware failed. -/
inductive Worker
  | starting
  | idle (fault? : Option Fault)
  | busy (fault? : Option Fault) (message : Message)
  | stopped
  deriving DecidableEq, Repr

structure Queue where
  waiting : List Message := []
  isShut : Bool := false
  worker : Worker := .starting
  /-- The commands that the hardware has executed or is executing, oldest first. -/
  executed : List NativeCommand := []
  deriving DecidableEq, Repr

namespace Queue

inductive Step
  | submit (message : Message)
  | shut
  | start (opening : Except Fault Unit)
  | pop
  | finish (answer : Except Fault Response)
  | stop

inductive Event
  | call (call : Call)
  | reply (reply : Reply)
  | accepted (message : Message)
  | refused (message : Message)
  deriving DecidableEq, Repr

/-- The command that the worker hands to the hardware for a message, or the fault that keeps it
from doing so. -/
def commandFor (fault? : Option Fault) (message : Message) : Except Fault NativeCommand :=
  match fault? with
  | some fault => .error fault
  | none => message.toNative

/-- What becomes of a message; `answer` is the hardware's, if it is asked. -/
def outcomeFor (fault? : Option Fault) (message : Message) (answer : Except Fault Response) :
    Outcome :=
  match commandFor fault? message with
  | .ok _ => .ofAnswer answer
  | .error fault => .failed fault

def isCalling (q : Queue) : Bool :=
  match q.worker with
  | .busy fault? message => (commandFor fault? message).isOk
  | _ => false

/-- The queue with one more message, unless it is shut. -/
def submit? (q : Queue) (message : Message) : Option Queue :=
  if q.isShut then none else some { q with waiting := q.waiting ++ [message] }

def step (q : Queue) : Step → Option (Queue × List Event)
  | .submit message =>
    match q.submit? message with
    | some q => some (q, [.accepted message])
    | none => some (q, [.refused message])
  | .shut => some ({ q with isShut := true }, [])
  | .start opening =>
    match q.worker, opening with
    | .starting, .ok () => some ({ q with worker := .idle none }, [.call .opened])
    | .starting, .error fault => some ({ q with worker := .idle (some fault) }, [.call .opened])
    | _, _ => none
  | .pop =>
    match q.worker, q.waiting with
    | .idle fault?, message :: waiting =>
      if q.isShut then none
      else
        let q := { q with waiting, worker := .busy fault? message }
        match commandFor fault? message with
        | .ok command =>
          some ({ q with executed := q.executed ++ [command] }, [.call (.executed command)])
        | .error _ => some (q, [])
    | _, _ => none
  | .finish answer =>
    match q.worker with
    | .busy fault? message =>
      some ({ q with worker := .idle fault? },
        [.reply ⟨message.seq, message.kind, outcomeFor fault? message answer⟩])
    | _ => none
  | .stop =>
    match q.worker with
    | .idle fault? =>
      if q.isShut then
        some ({ q with worker := .stopped }, if fault?.isNone then [.call .closed] else [])
      else none
    | _ => none

def run (q : Queue) : List Step → Option (Queue × List Event)
  | [] => some (q, [])
  | s :: rest => do
    let (q, events) ← q.step s
    let (q, later) ← q.run rest
    return (q, events ++ later)

/-- The answer that the hardware has for the command being executed. -/
def answer (hardware : Hardware) (q : Queue) : Except Fault Response :=
  match q.executed.getLast? with
  | some command => hardware.answer q.executed.dropLast command
  | none => .ok (.lines [])

/-- The worker's next step, if it has one. Held hardware does not return from a call. -/
def due (hardware : Hardware) (isHeld : Bool) (q : Queue) : Option Step :=
  match q.worker with
  | .starting => some (.start hardware.opening)
  | .idle _ => if q.isShut then some .stop else if q.waiting.isEmpty then none else some .pop
  | .busy _ _ => if isHeld && q.isCalling then none else some (.finish (q.answer hardware))
  | .stopped => none

/-- No run of the worker alone is longer. -/
def stepsLeft (q : Queue) : Nat := 2 * q.waiting.length + 3

/-- Lets the worker go on until it waits. -/
def settle (hardware : Hardware) (isHeld : Bool) (q : Queue) : Queue × List Event :=
  go q.stepsLeft q
where
  go : Nat → Queue → Queue × List Event
    | 0, q => (q, [])
    | fuel + 1, q =>
      match (q.due hardware isHeld).bind q.step with
      | none => (q, [])
      | some (q, events) =>
        let (q, later) := go fuel q
        (q, events ++ later)

end Queue

end CecGateway
