import CecGateway.Shell.Builtin

/-!
# Running scripts

A script is run command by command. Programs are found by their name or in the folders of
programs; the shell is one of them.
-/

namespace CecGateway.Shell

def programName? (command : Bytes) : Option String :=
  let text := String.ofList command
  if command.contains '/' then
    ["/bin/", "/usr/bin/"].findSome? fun folder =>
      if folder.toList.isPrefixOf command then some (String.ofList (command.drop folder.length))
      else none
  else some text

structure Invocation where
  /-- Without a script, the input is one. -/
  script : Option Bytes
  name : Bytes
  arguments : List Bytes
  options : Bytes := []

/-- Reads the arguments of a shell after its options; without a result they name no script that
can be read. -/
def Invocation.ofOperands? (files : Bytes → Option Bytes) (ownName options : Bytes)
    (operands : List Bytes) : Option Invocation :=
  match operands with
  | [] => if 'c' ∈ options then none else some ⟨none, ownName, [], options⟩
  | first :: rest =>
    if 'c' ∈ options then
      match rest with
      | [] => some ⟨some first, ownName, [], options⟩
      | name :: rest => some ⟨some first, name, rest, options⟩
    else if 's' ∈ options then some ⟨none, ownName, operands, options⟩
    else (files first).map fun text => ⟨some text, first, rest, options⟩

def optionLetters : List Char := "abcefhilmnopqstuvxCEIV".toList

/-- Reads the arguments of a shell, of which it has read some options. -/
def Invocation.ofArguments? (files : Bytes → Option Bytes) (ownName options : Bytes) :
    List Bytes → Option Invocation
  | [] => ofOperands? files ownName options []
  | argument :: rest =>
    match argument with
    | ['-'] | ['-', '-'] => ofOperands? files ownName options rest
    | '-' :: letters =>
      if letters.all (· ∈ optionLetters) then ofArguments? files ownName (options ++ letters) rest
      else none
    | '+' :: _ => ofArguments? files ownName options rest
    | _ => ofOperands? files ownName options (argument :: rest)

/-- Runs a script line by line. A line that cannot be read ends the shell. -/
def runLines (run : Node → Run Unit) : Nat → Bytes → Run Unit
  | 0, _ => return
  | fuel + 1, text => do
    match skipLines (text.length + 1) text with
    | [] => return
    | text => do
      match nextLine text with
      | none => do
        complain 2 "Syntax error"
        throw .exited
      | some (node, rest) => do
        run node
        runLines run fuel rest

def runText (run : Node → Run Unit) (text : Bytes) : Run Unit := runLines run (text.length + 1) text

/-- Runs the scripts of traps that have been set off; they leave the status as it is. -/
def runPending (run : Node → Run Unit) : Run Unit := do
  let m ← get
  unless m.pending.isEmpty do
    set { m with pending := [] }
    m.pending.forM (runText run)
    setStatus m.status

/-- Runs the script for the exit of a shell after its script, unless a signal ends it. -/
def atExit (run : Node → Run Unit) (body : Run Unit) : Run Unit := do
  let result ← attempt body
  match result, (← get).traps.lookup 0 with
  | .error (.killed ..), _ | .error .expired, _ | _, none => finish result
  | _, some script => do
    let status := (← get).status
    modify fun m => { m with traps := m.traps.filter (·.1 ≠ 0) }
    runText run script
    setStatus status
    finish result

/-- Runs the script of a shell that is started, which knows exported variables only. -/
def invoke (run : Node → Run Unit) (invocation : Invocation) : Run Unit := do
  modify fun m => { m with
    name := invocation.name, arguments := invocation.arguments
    store := m.store.filter fun v => m.exported.contains v.1
    functions := []
    stopsOnFailure := false, stopsOnUnset := false, isTested := false, calls := 0, loops := 0
    locals := none, status := 0 }
  modify (·.setOptions true invocation.options)
  let script ← match invocation.script with
    | some script => pure script
    | none => takeInput
  atExit run (runText run script)

/-- Runs a shell within the current one. A signal to it gives a status. -/
def nest (body : Run Unit) : Run Unit := do
  let outer ← get
  let number := outer.number + 1
  let result ← attempt (inSubshell do
    modify fun m => { m with number }
    body)
  match result with
  | .error (.killed target signal) =>
    if target = number then setStatus (128 + signal) else finish result
  | _ => finish result

/-- The programs that are shells, and whether their `echo` leaves backslashes alone. -/
def shells : List (String × Bool) := [("sh", false), ("dash", false), ("bash", true)]

/-- The command in the arguments of `env`, after its options and assignments. -/
def envCommand : List Bytes → List Bytes
  | [] => []
  | argument :: rest =>
    match argument with
    | '-' :: 'S' :: text => fields [' ', '\t'] (text.map .loose) ++ rest
    | '-' :: _ => envCommand rest
    | _ => if argument.contains '=' then envCommand rest else argument :: rest

/-- Starts a program; a shell is started in the way that is given. -/
def launch (shell : Run Unit → Run Unit) (run : Node → Run Unit) (command : Bytes)
    (arguments : List Bytes) : Run Unit := do
  let (command, arguments) :=
    if programName? command = some "env" then
      match envCommand arguments with
      | command :: arguments => (command, arguments)
      | [] => ("true".toList, [])
    else (command, arguments)
  let fail := complain 127 (String.ofList command ++ ": not found")
  match programName? command with
  | none => fail
  | some name =>
    match shells.lookup name, Program.named? name, builtin? name with
    | some echoesPlainly, _, _ =>
      match Invocation.ofArguments? (← get).files command [] arguments with
      | some invocation => shell do
        modify fun m => { m with echoesPlainly }
        invoke run invocation
      | none => complain 2 "cannot open script"
    | none, some program, _ => inSubshell (program.run arguments)
    | none, none, some command => inSubshell (command arguments)
    | none, none, none => fail

/-- Starts a program beside the shell. -/
def start (run : Node → Run Unit) : Bytes → List Bytes → Run Unit := launch nest run

/-- Starts a program in place of the shell. -/
def replace (run : Node → Run Unit) : Bytes → List Bytes → Run Unit := launch inSubshell run

/-! ## Redirections -/

def canCreate (path : Bytes) : Bool :=
  let folder := (path.reverse.dropWhile (· ≠ '/')).reverse
  folder.isEmpty || ["/tmp/", "/dev/", "./"].any (·.toList = folder)

/-- Applies a redirection; without success it complains. What is written to files is not kept. -/
def redirect (output : Bytes → Run Bytes) (r : Redirection) : Run Bool := do
  match r with
  | .toFile descriptor target => do
    let path ← expandText output target
    let m ← get
    if !canCreate path then
      complain 2 ("cannot create " ++ String.ofList path ++ ": Directory nonexistent")
      return false
    let port :=
      if path = "/dev/stdout".toList then m.port 1
      else if path = "/dev/stderr".toList then m.port 2
      else some .nowhere
    set (m.setPort descriptor port)
    return true
  | .toDescriptor descriptor target => do
    let text ← expandText output target
    let m ← get
    if text.isEmpty then return true
    else if text = ['-'] then
      set (m.setPort descriptor none)
      return true
    else match m.port (Decimal.valueOf text) with
      | some port =>
        set (m.setPort descriptor (some port))
        return true
      | none =>
        complain 2 "bad descriptor"
        return false
  | .fromFile target => do
    let path ← expandText output target
    match ← readFileText path with
    | some input =>
      modify fun m => { m with input }
      return true
    | none =>
      complain 2 ("cannot open " ++ String.ofList path ++ ": No such file")
      return false
  | .fromText word => do
    let input ← expandText output word
    modify fun m => { m with input }
    return true

def redirectAll (output : Bytes → Run Bytes) : List Redirection → Run Bool
  | [] => return true
  | r :: rs => do
    if ← redirect output r then redirectAll output rs else return false

def Redirection.isOfInput : Redirection → Bool
  | fromFile _ | fromText _ => true
  | _ => false

/-! ## Commands -/

def assignAll (output : Bytes → Run Bytes) (assignments : List (Bytes × Word)) :
    Run (List Bytes) :=
  assignments.mapM fun (name, word) => do
    let value ← expandText output word
    modify fun m => { m with store := m.store.set name value }
    return name

def restore (vs : Variables) (saved : Bytes × Option Bytes) : Variables :=
  match saved.2 with
  | some value => vs.set saved.1 value
  | none => vs.erase saved.1

/-- No more functions are called within each other. -/
def maxCalls : Nat := 1000

def callFunction (run : Node → Run Unit) (body : Node) (arguments : List Bytes) : Run Unit := do
  let outer ← get
  if maxCalls ≤ outer.calls then
    complain 2 "Maximum function recursion depth reached"
    throw .exited
  set { outer with arguments, loops := 0, calls := outer.calls + 1, locals := some [] }
  let result ← attempt (run body)
  modify fun m => { m with
    arguments := outer.arguments, loops := outer.loops, calls := outer.calls
    locals := outer.locals
    store := (m.locals.getD []).foldl restore m.store }
  match result with
  | .error .returned => return
  | result => finish result

def runFields (run : Node → Run Unit) (command : Bytes) (arguments : List Bytes) : Run Unit := do
  let m ← get
  match m.functions.find? (·.1 = command) with
  | some f => callFunction run f.2 arguments
  | none =>
    match String.ofList command, arguments with
    | "eval", _ => do
      let text := [' '].intercalate arguments
      setStatus 0
      runText run text
    | ".", path :: _ => do
      match m.files path with
      | some text => runText run text
      | none => do
        complain 2 (".: cannot open " ++ String.ofList path)
        throw .exited
    | "exec", [] => setStatus 0
    | "exec", command :: arguments => do
      replace run command arguments
      modify fun m => { m with traps := [] }
      throw .exited
    | "command", command :: arguments => do
      match builtin? (String.ofList command) with
      | some f => f arguments
      | none => start run command arguments
    | name, _ =>
      match builtin? name with
      | some f => f arguments
      | none => start run command arguments

/-- Runs a simple command. Assignments before one last as long as it does. -/
def runSimple (run : Node → Run Unit) (output : Bytes → Run Bytes)
    (assignments : List (Bytes × Word)) (words : List Word) : Run Unit := do
  modify fun m => { m with outputStatus := none }
  match ← expandWords output words with
  | [] => do
    let _ ← assignAll output assignments
    modify fun m => { m with status := m.outputStatus.getD 0 }
  | command :: arguments => do
    if assignments.isEmpty then runFields run command arguments
    else
      let outer ← get
      let names ← assignAll output assignments
      modify fun m => { m with exported := names ++ m.exported }
      let result ← attempt (runFields run command arguments)
      let saved := names.map fun n => (n, outer.store.get? n)
      modify fun m => { m with
        store := saved.foldl restore m.store, exported := outer.exported }
      finish result

/-- Whether a command only changes where the shell reads and writes. -/
def changesShell : Node → Bool
  | .simple [] [word] => bare? word = some "exec".toList
  | _ => false

/-- Runs a command; without fuel, no end is in sight. -/
def run : Nat → Node → Run Unit
  | 0, _ => throw .expired
  | fuel + 1, node => do
    spend 1
    let output (script : Bytes) : Run Bytes := do
      let status := (← get).status
      let text ← collect (runText (run fuel) script)
      modify fun m => { m with outputStatus := some m.status, status }
      return text
    match node with
    | .simple assignments words => do
      runSimple (run fuel) output assignments words
      runPending (run fuel)
      checkFailure
    | .redirected body rs => do
      let outer ← get
      let isDone ← redirectAll output rs
      if changesShell body then
        if isDone then setStatus 0 else throw .exited
      else
        let result ← if isDone then attempt (run fuel body) else pure (.ok ())
        modify fun m => { m with
          ports := outer.ports
          input := if rs.any (·.isOfInput) then outer.input else m.input }
        finish result
        checkFailure
    | .pipeline first second => do
      let text ← collect (tested (run fuel first))
      withInput text (inSubshell (run fuel second))
      checkFailure
    | .negated body => do
      tested (run fuel body)
      modify fun m => { m with status := if m.status = 0 then 1 else 0 }
    | .both first second => do
      tested (run fuel first)
      if (← get).status = 0 then run fuel second
    | .either first second => do
      tested (run fuel first)
      if (← get).status ≠ 0 then run fuel second
    | .sequence first second => do
      run fuel first
      run fuel second
    | .background body => inBackground (run fuel body)
    | .subshell body => do
      inSubshell (run fuel body)
      checkFailure
    | .branch test yes no => do
      tested (run fuel test)
      if (← get).status = 0 then run fuel yes else run fuel no
    | .loop isUntil test body =>
      let turn (last : Nat) : Run (Bool × Nat) := do
        tested (run fuel test)
        let status := (← get).status
        if (status = 0) = isUntil then return (false, last)
        else return (← bodyOfLoop (run fuel body), (← get).status)
      takeTurns turn maxTurns 0
    | .forEach name words body => do
      let values ← match words with
        | some words => expandWords output words
        | none => pure (← get).arguments
      setStatus 0
      takeEach name (run fuel body) values
    | .choice word branches => do
      let subject ← expandText output word
      setStatus 0
      let isChosen (patterns : List Word) : Run Bool :=
        patterns.anyM fun p => return matchesPattern (pattern (← expand output p)) subject
      match ← branches.findM? fun branch => isChosen branch.1 with
      | some (_, body) => run fuel body
      | none => return
    | .function name body =>
      modify fun m => { m with
        functions := (name, body) :: m.functions.filter (·.1 ≠ name), status := 0 }

/-- Commands are nested less deeply than this. -/
def maxDepth : Nat := 10000

/-- How a run ends: with a status, unless a signal ended it, and with the chunks of its reply. -/
inductive Outcome
  | ended (status : Option Nat) (reply : List Bytes)
  | expired
  deriving DecidableEq, Repr

/-- Runs a body from a state until it has ended and nothing keeps the reply open. -/
def outcome (m : Machine) (body : Run Unit) : Outcome :=
  let (result, m) := body m
  if m.limit ≤ max m.clock m.heldUntil then .expired
  else match result with
    | .error .expired => .expired
    | .error (.killed ..) => .ended none (m.chunksOf .reply)
    | _ => .ended (some (m.status % 256)) (m.chunksOf .reply)

def startProgram (m : Machine) (program : Bytes) (arguments : List Bytes) : Outcome :=
  outcome m (replace (run maxDepth) program arguments)

end CecGateway.Shell
