import CecGateway.Answer
import CecGateway.Controller
import CecGateway.Request
import CecGateway.Text.Lines

/-!
# Sessions

A session reads lines, has the controller carry out the request on each, and writes one line for
every answer. A line is read only after the answers to the lines before it are written, or after
writing has failed: then input is still read to its end.
-/

namespace CecGateway

/-! ## Input -/

def isTerminated (line : List UInt8) : Bool := line.getLast? = some 10

def isBlankLine (line : List UInt8) : Bool := line.all Request.isBlankByte

/-- What a session reads: bytes, and then the end of the input or a read error. -/
structure Source where
  bytes : List UInt8
  error? : Option String := none

/-- The lines that are read. An error loses a last line that is not terminated. -/
def Source.lines (s : Source) : List (List UInt8) :=
  if s.error?.isSome then (splitLines s.bytes).filter isTerminated else splitLines s.bytes

/-! ## Output -/

inductive SessionError
  | io (reason : String)
  | unserialized (reason : String)
  | writerAborted
  deriving DecidableEq, Repr

def SessionError.message : SessionError → String
  | io reason => "IO error: " ++ reason
  | unserialized reason => "failed to serialize response: " ++ reason
  | writerAborted => "response writer panicked"

structure Sink where
  /-- How many bytes it takes, and the error after that. -/
  limit? : Option (Nat × String) := none
  /-- The error of every flush. -/
  flushError? : Option String := none
  /-- Whether the first write ends the writer. -/
  aborts : Bool := false

/-- What has been written: whole lines, their length in bytes, and the error that ended it. -/
structure Output where
  lines : List String := []
  bytes : Nat := 0
  error? : Option SessionError := none

/-- Writes one line and flushes it, unless an earlier write has failed. -/
def Output.write (sink : Sink) (o : Output) (line : String) : Output :=
  if o.error?.isSome then o
  else if sink.aborts then { o with error? := some .writerAborted }
  else
    let size := o.bytes + line.utf8ByteSize
    match sink.limit?.filter (·.1 < size), sink.limit?.filter (·.1 < size + 1) with
    | some (_, reason), _ => { o with error? := some (.unserialized reason) }
    | none, some (_, reason) => { o with error? := some (.io reason) }
    | none, none =>
      { lines := o.lines ++ [line], bytes := size + 1, error? := sink.flushError?.map .io }

/-! ## Requests -/

structure Summary where
  /-- Lines that are not blank. -/
  requests : Nat := 0
  /-- Those that are no command. -/
  rejected : Nat := 0
  deriving DecidableEq, Repr

def answersTo (ticket : Nat) (id : Option Json) (events : List Event) : List Answer :=
  events.filterMap fun
    | .completed t result => if t = ticket then some (.ofResult id result) else none
    | _ => none

/-- What becomes of a line: a rejection, or a command for the controller. -/
inductive Reading
  | rejected (id : Option Json)
  | command (id : Option Json) (payload : Payload)

def Reading.ofLine (line : List UInt8) : Reading :=
  match Request.parse line with
  | .error _ => rejected none
  | .ok request =>
    match request.payload with
    | .error _ => rejected request.id
    | .ok payload => command request.id payload

structure Session where
  controller : Controller
  summary : Summary := {}
  events : List Event := []
  answers : List Answer := []

namespace Session

/-- Reads one line that is not blank, and waits for its answer. -/
def read (hardware : Hardware) (s : Session) (line : List UInt8) : Session :=
  let requests := s.summary.requests + 1
  match Reading.ofLine line with
  | .rejected id =>
    { s with
      summary := ⟨requests, s.summary.rejected + 1⟩
      answers := s.answers ++ [.badInput id] }
  | .command id payload =>
    let (controller, _, events) := s.controller.dispatch hardware ⟨requests, payload⟩
    { controller
      summary := { s.summary with requests }
      events := s.events ++ events
      answers := s.answers ++ answersTo requests id events }

def readAll (hardware : Hardware) (controller : Controller) (lines : List (List UInt8)) : Session :=
  (lines.filter (!isBlankLine ·)).foldl (read hardware) { controller }

def output (sink : Sink) (s : Session) : Output :=
  (s.answers.map (·.render)).foldl (Output.write sink) {}

end Session

structure Served where
  controller : Controller
  events : List Event
  /-- Whole lines written. -/
  written : List String
  result : Except SessionError Summary

/-- Serves an input. An aborted writer is reported before a read error, and that before any
other write error. -/
def serve (hardware : Hardware) (controller : Controller) (source : Source) (sink : Sink) :
    Served :=
  let session := Session.readAll hardware controller source.lines
  let output := session.output sink
  let result := match output.error?, source.error? with
    | some .writerAborted, _ => .error .writerAborted
    | _, some reason => .error (.io reason)
    | some error, none => .error error
    | none, none => .ok session.summary
  ⟨session.controller, session.events, output.lines, result⟩

end CecGateway
