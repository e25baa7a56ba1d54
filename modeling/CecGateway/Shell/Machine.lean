import CecGateway.Shell.Pattern
import CecGateway.Shell.Variables

/-!
# The state of a shell

What a script can see and change: variables, functions, its input, where its output goes, and the
time that has passed. Time is counted in milliseconds and only passes where a script waits; a run
ends when its limit is reached.
-/

namespace CecGateway.Shell

inductive Port
  | reply
  /-- Collected for an expansion or for the next stage of a pipeline. -/
  | collected (collector : Nat)
  | nowhere
  deriving DecidableEq, Repr

structure Chunk where
  time : Nat
  port : Port
  text : Bytes

structure Machine where
  name : Bytes
  number : Nat := 4242
  arguments : List Bytes := []
  store : Variables := []
  exported : List Bytes := []
  functions : List (Bytes × Node) := []
  status : Nat := 0
  /-- The status of the last script that was run for its output. -/
  outputStatus : Option Nat := none
  input : Bytes := []
  /-- Descriptors that are not listed are closed. -/
  ports : List (Nat × Port) := [(1, .reply), (2, .nowhere)]
  /-- The latest chunk comes first. -/
  written : List Chunk := []
  collectors : Nat := 0
  clock : Nat := 0
  limit : Nat
  /-- How many commands have been run and characters expanded. -/
  work : Nat := 0
  /-- Until when a background command keeps the reply from ending. -/
  heldUntil : Nat := 0
  /-- Until when any background command runs. -/
  jobsUntil : Nat := 0
  isBackground : Bool := false
  /-- A failing command ends the shell, except where its status is tested. -/
  stopsOnFailure : Bool := false
  isTested : Bool := false
  /-- To expand a variable that is not set ends the shell. -/
  stopsOnUnset : Bool := false
  /-- Whether `echo` leaves backslashes alone unless it is told otherwise. -/
  echoesPlainly : Bool := false
  calls : Nat := 0
  loops : Nat := 0
  /-- In a function, what its local variables were before. -/
  locals : Option (List (Bytes × Option Bytes)) := none
  /-- Scripts to be run for signals, or at the exit; for an empty one a signal is ignored. -/
  traps : List (Nat × Bytes) := []
  /-- Scripts of traps that have not been run yet. -/
  pending : List Bytes := []
  files : Bytes → Option Bytes := fun _ => none

inductive Stop
  /-- The shell ends with the status it has. -/
  | exited
  | killed (number signal : Nat)
  /-- The limit is reached, or no end is in sight. -/
  | expired
  /-- So many loops are left, and then the innermost that remains may go on. -/
  | leaves (loops : Nat) (goesOn : Bool)
  | returned
  deriving DecidableEq, Repr

abbrev Run := ExceptT Stop (StateM Machine)

def setStatus (status : Nat) : Run Unit := modify fun m => { m with status }

def exit (status : Nat) : Run Unit := do
  setStatus status
  throw .exited

/-! ## Input and output -/

def Machine.port (m : Machine) (descriptor : Nat) : Option Port :=
  (m.ports.find? (·.1 = descriptor)).map (·.2)

def Machine.setPort (m : Machine) (descriptor : Nat) (port : Option Port) : Machine :=
  { m with ports := (port.map (descriptor, ·)).toList ++ m.ports.filter (·.1 ≠ descriptor) }

def Machine.write (m : Machine) (descriptor : Nat) (text : Bytes) : Machine :=
  match m.port descriptor with
  | none | some .nowhere => m
  | some port => { m with written := ⟨m.clock, port, text⟩ :: m.written }

def Machine.chunksOf (m : Machine) (port : Port) : List Bytes :=
  ((m.written.reverse.filter (·.port = port)).mergeSort fun a b => a.time ≤ b.time).map (·.text)

def Machine.textOf (m : Machine) (port : Port) : Bytes := (m.chunksOf port).flatten

/-- Writes a text with success, unless there is nowhere to write it. -/
def write (text : Bytes) : Run Unit :=
  modify fun m => { m.write 1 text with status := if (m.port 1).isSome then 0 else 1 }

/-- Writes what went wrong, and sets the status. -/
def complain (status : Nat) (text : String) : Run Unit := do
  modify fun m => m.write 2 (m.name ++ ": 1: ".toList ++ text.toList ++ ['\n'])
  setStatus status

def takeInput : Run Bytes :=
  modifyGet fun m => (m.input, { m with input := [] })

/-- Takes the input up to a newline, and says whether there was one. -/
def takeLine : Run (Bytes × Bool) :=
  modifyGet fun m =>
    let line := m.input.takeWhile (· ≠ '\n')
    let rest := m.input.drop line.length
    ((line, !rest.isEmpty), { m with input := rest.drop 1 })

def pass (milliseconds : Nat) : Run Unit := do
  let m ← get
  let clock := m.clock + milliseconds
  let heldUntil :=
    if m.isBackground && m.port 1 = some .reply then max m.heldUntil (min clock m.limit)
    else m.heldUntil
  set { m with clock, heldUntil }
  if m.limit ≤ clock then throw .expired

/-- After so much work no end is in sight. -/
def maxWork : Nat := 5000000

def spend (amount : Nat) : Run Unit := do
  let work := (← get).work + amount
  if maxWork ≤ work then throw .expired
  modify fun m => { m with work }

/-! ## Runs within runs -/

def attempt (body : Run Unit) : Run (Except Stop Unit) := fun m =>
  let (result, m) := body m
  (.ok result, m)

/-- Goes on from an attempt as the run itself would. -/
def finish : Except Stop Unit → Run Unit
  | .ok () => return
  | .error stop => throw stop

/-- A shell of its own shares input, output and time with the outer one, and gives it a status. -/
def Machine.rejoin (outer inner : Machine) : Machine :=
  { outer with
    input := inner.input, written := inner.written, clock := inner.clock, work := inner.work
    heldUntil := inner.heldUntil, collectors := inner.collectors, status := inner.status }

def inSubshell (body : Run Unit) : Run Unit := do
  let outer ← get
  modify fun m => { m with traps := m.traps.filter (·.2.isEmpty) }
  let result ← attempt body
  modify outer.rejoin
  match result with
  | .error (.killed number signal) => throw (.killed number signal)
  | .error .expired => throw .expired
  | _ => return

def collect (body : Run Unit) : Run Bytes := do
  let outer ← get
  let collector := outer.collectors + 1
  let port := Port.collected collector
  set ({ outer with collectors := collector }.setPort 1 (some port))
  inSubshell body
  modify fun m => { m with ports := outer.ports }
  modifyGet fun m =>
    (m.textOf port, { m with written := m.written.filter (·.port ≠ port) })

def withInput (input : Bytes) (body : Run Unit) : Run Unit := do
  let outer ← get
  set { outer with input }
  let result ← attempt body
  modify fun m => { m with input := outer.input }
  finish result

/-- Runs a body whose status is tested, so that its failure ends nothing. -/
def tested (body : Run Unit) : Run Unit := do
  let wasTested := (← get).isTested
  modify fun m => { m with isTested := true }
  let result ← attempt body
  modify fun m => { m with isTested := wasTested }
  finish result

/-- Runs a body beside the shell: its time is its own, and it reads nothing. -/
def inBackground (body : Run Unit) : Run Unit := do
  let outer ← get
  set { outer with input := [], isBackground := true }
  let _ ← attempt body
  modify fun m =>
    { outer.rejoin m with
      input := outer.input, clock := outer.clock, status := 0
      jobsUntil := max outer.jobsUntil m.clock }

def checkFailure : Run Unit := do
  let m ← get
  if m.stopsOnFailure && !m.isTested && m.status ≠ 0 then throw .exited

/-! ## Loops -/

def bodyOfLoop (body : Run Unit) : Run Bool := do
  let loops := (← get).loops
  modify fun m => { m with loops := loops + 1 }
  let result ← attempt body
  modify fun m => { m with loops }
  match result with
  | .ok () => return true
  | .error (.leaves 0 goesOn) => return goesOn
  | .error (.leaves (n + 1) goesOn) => throw (.leaves n goesOn)
  | .error stop => throw stop

/-- A loop that takes so many turns has no end in sight. -/
def maxTurns : Nat := 200000

/-- Takes turns, each on the status of the one before it, as long as they ask for another. -/
def takeTurns (turn : Nat → Run (Bool × Nat)) : Nat → Nat → Run Unit
  | 0, _ => throw .expired
  | fuel + 1, last => do
    let (goesOn, status) ← turn last
    if goesOn then takeTurns turn fuel status else setStatus status

def takeEach (name : Bytes) (body : Run Unit) : List Bytes → Run Unit
  | [] => return
  | value :: rest => do
    modify fun m => { m with store := m.store.set name value }
    if ← bodyOfLoop body then takeEach name body rest

end CecGateway.Shell
