import CecGateway.Contract
import CecGateway.Event
import CecGateway.Queue
import CecGateway.Registry
import CecGateway.Reply.Interpret

/-!
# The generic handler

The handler that carries commands out. It validates a command against the registry, the contracts
and the tool's limits, and completes an invalid one at once. A valid one gets a sequence number, is
recorded as pending and submitted to the queue; the reply with its number is interpreted, folded
into the registry and completes it. When the handler is dropped, what is still pending fails.
-/

namespace CecGateway

/-- A command that waits for the reply with its number. -/
structure Pending where
  seq : Nat
  kind : Kind
  command : Command
  deriving DecidableEq, Repr

structure Generic where
  defaultAdapter : String
  registry : Registry := {}
  pending : List Pending := []
  /-- Sequence numbers are words: they start again after the last one. -/
  nextSeq : UInt64 := 1
  queue : Queue := {}
  observers : Nat := 0
  deriving DecidableEq, Repr

namespace Generic

/-! ## Validation -/

def checkAdapter (r : Registry) (payload : Payload) : Except Failure Unit :=
  match payload.adapter? with
  | some name => if r.hasAdapter name then .ok () else .error .invalidAdapter
  | none => .ok ()

/-- Destination, sub-command and key, as far as the payload has them. -/
def checkContent (r : Registry) : Payload → Except Failure Unit
  | .listAdapters | .scan _ => .ok ()
  | .sendCommand _ destination _ command =>
    if (r.device? destination).isNone then .error .invalidDestination else command.check
  | .getConfig key _ => checkKey readableKeys key
  | .setConfig key _ _ => checkKey writableKeys key

def checkLimits (defaultAdapter : String) (payload : Payload) : Except Failure Unit :=
  match (Message.ofPayload 0 defaultAdapter payload).toNative with
  | .ok _ => .ok ()
  | .error fault => .error fault.failure

def validate (g : Generic) (payload : Payload) : Except Failure Unit := do
  checkAdapter g.registry payload
  checkContent g.registry payload
  checkLimits g.defaultAdapter payload

/-! ## Handling a command -/

def messageOf (g : Generic) (seq : Nat) (payload : Payload) : Message :=
  .ofPayload seq g.defaultAdapter payload

def allocate (g : Generic) : Nat × Generic :=
  (g.nextSeq.toNat, { g with nextSeq := g.nextSeq + 1 })

def record (g : Generic) (seq : Nat) (command : Command) : Generic :=
  { g with pending := g.pending ++ [⟨seq, command.payload.kind, command⟩] }

/-- The first pending command with a number. -/
def pending? (g : Generic) (seq : Nat) : Option Pending := g.pending.find? (·.seq = seq)

def forget (g : Generic) (seq : Nat) : Generic :=
  { g with pending := g.pending.eraseP (·.seq = seq) }

@[simp]
theorem forget_queue (g : Generic) (seq : Nat) : (g.forget seq).queue = g.queue := rfl

def fail (why : Failure) (kind : Kind) (command : Command) : Event :=
  .completed command.ticket (.failure kind why)

/-- Hands a recorded command to the queue. A shut queue fails it. -/
def submit (g : Generic) (seq : Nat) (payload : Payload) : Generic × List Event :=
  match g.queue.submit? (g.messageOf seq payload), g.pending? seq with
  | some queue, _ => ({ g with queue }, [])
  | none, some p => (g.forget seq, [fail .hardwareUnavailable payload.kind p.command])
  | none, none => (g, [])

/-- Takes a command: rejects it at once, or records and submits it. -/
def handle (g : Generic) (command : Command) : Generic × List Event :=
  match g.validate command.payload with
  | .error why => (g, [fail why command.payload.kind command])
  | .ok () =>
    let (seq, g) := g.allocate
    (g.record seq command).submit seq command.payload

/-! ## Replies -/

def resultOf (p : Pending) : Outcome → Result
  | .lines lines => Reply.interpret p.command.payload lines
  | .notImplemented => .failure p.kind .hardwareUnavailable
  | .failed fault => .failure p.kind fault.failure

/-- Folds a result into the registry and tells the observers of a scan. -/
def apply (g : Generic) (result : Result) : Generic × List Event :=
  match result.data? with
  | some (.adapters names) => ({ g with registry := g.registry.replaceAdapters names }, [])
  | some (.devices devices) =>
    ({ g with registry := g.registry.mergeDevices devices },
      (List.range g.observers).map (.scanned · devices))
  | _ => (g, [])

@[simp]
theorem apply_defaultAdapter (g : Generic) (result : Result) :
    (g.apply result).1.defaultAdapter = g.defaultAdapter := by
  unfold apply; split <;> rfl

@[simp]
theorem apply_pending (g : Generic) (result : Result) :
    (g.apply result).1.pending = g.pending := by
  unfold apply; split <;> rfl

@[simp]
theorem apply_nextSeq (g : Generic) (result : Result) :
    (g.apply result).1.nextSeq = g.nextSeq := by
  unfold apply; split <;> rfl

@[simp]
theorem apply_queue (g : Generic) (result : Result) : (g.apply result).1.queue = g.queue := by
  unfold apply; split <;> rfl

@[simp]
theorem completions_apply (g : Generic) (result : Result) :
    Event.completions (g.apply result).2 = [] := by
  unfold apply; split <;> simp

/-- Completes the pending command that a reply answers; a reply to no command is dropped. -/
def onReply (g : Generic) (reply : Reply) : Generic × List Event :=
  match g.pending? reply.seq with
  | none => (g, [])
  | some p =>
    let result := resultOf p reply.outcome
    let (g, events) := (g.forget reply.seq).apply result
    (g, events ++ [.completed p.command.ticket result])

theorem onReply_of_some {g : Generic} {reply : Reply} {p : Pending}
    (hpending : g.pending? reply.seq = some p) :
    g.onReply reply =
      (((g.forget reply.seq).apply (resultOf p reply.outcome)).1,
        ((g.forget reply.seq).apply (resultOf p reply.outcome)).2 ++
          [.completed p.command.ticket (resultOf p reply.outcome)]) := by
  simp only [onReply, hpending]

theorem onReply_of_none {g : Generic} {reply : Reply} (hpending : g.pending? reply.seq = none) :
    g.onReply reply = (g, []) := by
  simp only [onReply, hpending]

/-! ## The worker -/

def onQueueEvent (g : Generic) : Queue.Event → Generic × List Event
  | .call call => (g, [.call call])
  | .reply reply => g.onReply reply
  | .accepted _ | .refused _ => (g, [])

def onQueueEvents (g : Generic) : List Queue.Event → Generic × List Event
  | [] => (g, [])
  | e :: rest =>
    let (g, events) := g.onQueueEvent e
    let (g, later) := g.onQueueEvents rest
    (g, events ++ later)

theorem onQueueEvents_singleton (g : Generic) (e : Queue.Event) :
    g.onQueueEvents [e] = g.onQueueEvent e := by
  simp [onQueueEvents]

def work (g : Generic) (step : Queue.Step) : Option (Generic × List Event) := do
  let (queue, events) ← g.queue.step step
  return { g with queue }.onQueueEvents events

/-- Lets the worker go on until it waits. -/
def settle (hardware : Hardware) (isHeld : Bool) (g : Generic) : Generic × List Event :=
  go g.queue.stepsLeft g
where
  go : Nat → Generic → Generic × List Event
    | 0, g => (g, [])
    | fuel + 1, g =>
      match (g.queue.due hardware isHeld).bind g.work with
      | none => (g, [])
      | some (g, events) =>
        let (g, later) := go fuel g
        (g, events ++ later)

def subscribe (g : Generic) : Generic := { g with observers := g.observers + 1 }

/-! ## The end -/

def shut (g : Generic) : Generic := { g with queue := { g.queue with isShut := true } }

def abandon (g : Generic) : Generic × List Event :=
  ({ g with pending := [] }, g.pending.map fun p => fail .hardwareUnavailable p.kind p.command)

/-- Shuts the queue, waits for the worker to stop, and fails the rest. -/
def drop (hardware : Hardware) (g : Generic) : Generic × List Event :=
  let (g, events) := g.shut.settle hardware false
  let (g, later) := g.abandon
  (g, events ++ later)

end Generic

end CecGateway
