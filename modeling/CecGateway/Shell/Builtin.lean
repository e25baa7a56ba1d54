import CecGateway.Shell.Expansion
import CecGateway.Shell.Program
import CecGateway.Shell.Test

/-!
# Commands of the shell itself

The commands that read and change the state of the shell, apart from those that run further
commands.
-/

namespace CecGateway.Shell

/-- A number that is given to a command of the shell; anything else ends the shell. -/
def takeNumber (text : Bytes) : Run Nat := do
  if text.isEmpty || !text.all Decimal.isDigit then
    complain 2 "Illegal number"
    throw .exited
  return Decimal.valueOf text

/-! ## Leaving -/

def exitShell : List Bytes → Run Unit
  | [] => throw .exited
  | status :: _ => do exit ((← takeNumber status) % 256)

def returnFromFunction : List Bytes → Run Unit
  | [] => throw .returned
  | status :: _ => do
    setStatus (← takeNumber status)
    throw .returned

def leaveLoops (goesOn : Bool) (arguments : List Bytes) : Run Unit := do
  let n ← match arguments with
    | [] => pure 1
    | n :: _ => takeNumber n
  let m ← get
  setStatus 0
  if 0 < m.loops && 0 < n then throw (.leaves (min n m.loops - 1) goesOn)

/-! ## Variables -/

/-- Sets a variable for `name=value`, and gives its name. -/
def assignArgument (argument : Bytes) : Run Bytes := do
  let name := argument.takeWhile (· ≠ '=')
  if name.length < argument.length then
    modify fun m => { m with store := m.store.set name (argument.drop (name.length + 1)) }
  return name

def exportNames (arguments : List Bytes) : Run Unit := do
  let names ← (arguments.filter (!isOption ['p'] ·)).mapM assignArgument
  modify fun m => { m with exported := names ++ m.exported, status := 0 }

/-- Sets variables that get their values back when the function returns. -/
def assignLocals (arguments : List Bytes) : Run Unit := do
  let m ← get
  match m.locals with
  | none => do
    complain 2 "local: not in a function"
    throw .exited
  | some saved => do
    let names := arguments.map (·.takeWhile (· ≠ '='))
    let before := names.map fun n => (n, m.store.get? n)
    set { m with locals := some (before ++ saved), status := 0 }
    let _ ← arguments.mapM assignArgument

def unsetNames (arguments : List Bytes) : Run Unit := do
  let isFunction := arguments.head? = some ['-', 'f']
  let names := arguments.filter (!isOption ['f', 'v'] ·)
  modify fun m =>
    if isFunction then
      { m with functions := m.functions.filter fun f => f.1 ∉ names, status := 0 }
    else { m with store := names.foldl Variables.erase m.store, status := 0 }

def shiftArguments (arguments : List Bytes) : Run Unit := do
  let n ← match arguments with
    | [] => pure 1
    | n :: _ => takeNumber n
  let m ← get
  if m.arguments.length < n then
    complain 2 "shift: can't shift that many"
    throw .exited
  else set { m with arguments := m.arguments.drop n, status := 0 }

def Machine.setOptions (isOn : Bool) (letters : Bytes) (m : Machine) : Machine :=
  { m with
    stopsOnFailure := if 'e' ∈ letters then isOn else m.stopsOnFailure
    stopsOnUnset := if 'u' ∈ letters then isOn else m.stopsOnUnset }

def setOptions : List Bytes → Run Unit
  | [] => setStatus 0
  | argument :: rest => do
    match argument with
    | ['-', '-'] => modify fun m => { m with arguments := rest, status := 0 }
    | '-' :: letters => do
      modify (·.setOptions true letters)
      setOptions rest
    | '+' :: letters => do
      modify (·.setOptions false letters)
      setOptions rest
    | _ => modify fun m => { m with arguments := argument :: rest, status := 0 }

/-! ## Reading -/

/-- A line of input with its backslashes carried out: one before a newline continues the line,
and one before any other character keeps it. -/
def unescapedLine : Nat → Bytes → List Mark × Bytes × Bool
  | 0, rest => ([], rest, false)
  | fuel + 1, input =>
    let push (m : List Mark) (result : List Mark × Bytes × Bool) : List Mark × Bytes × Bool :=
      (m ++ result.1, result.2)
    match input with
    | [] => ([], [], false)
    | '\n' :: rest => ([], rest, true)
    | '\\' :: '\n' :: rest => unescapedLine fuel rest
    | '\\' :: c :: rest => push [.kept c] (unescapedLine fuel rest)
    | ['\\'] => ([], [], false)
    | c :: rest => push [.loose c] (unescapedLine fuel rest)

/-- Shares a line out among names: each takes one field, and the last what is left. -/
def shareLine (separators : Bytes) : List Bytes → List Mark → List (Bytes × Bytes)
  | [], _ => []
  | name :: names, marks =>
    let isSpace (m : Mark) : Bool := match m with
      | .loose c => c ∈ separators && (c = ' ' || c = '\t' || c = '\n')
      | _ => false
    let isSeparator (m : Mark) : Bool := match m with
      | .loose c => c ∈ separators
      | _ => false
    let marks := marks.dropWhile isSpace
    if names.isEmpty then [(name, flat (marks.reverse.dropWhile isSpace).reverse)]
    else
      let field := marks.takeWhile (!isSeparator ·)
      let rest := (marks.drop field.length).dropWhile isSpace
      let rest := match rest with
        | m :: more => if isSeparator m then more else rest
        | [] => []
      (name, flat field) :: shareLine separators names rest

def readNames (arguments : List Bytes) : Run Unit := do
  let isRaw := arguments.head? = some ['-', 'r']
  let names := if isRaw then arguments.drop 1 else arguments
  if names.isEmpty then
    complain 2 "read: arg count"
    return
  let (marks, isComplete) ←
    if isRaw then do
      let (line, isComplete) ← takeLine
      pure (line.map Mark.loose, isComplete)
    else modifyGet fun m =>
      let (marks, input, isComplete) := unescapedLine (m.input.length + 1) m.input
      ((marks, isComplete), { m with input })
  let shares := shareLine (← get).separators names marks
  modify fun m => { m with
    store := shares.foldl (fun vs s => vs.set s.1 s.2) m.store
    status := if isComplete then 0 else 1 }

/-! ## Signals -/

inductive Effect
  | none
  | stops
  | kills
  deriving DecidableEq, Repr

/-- The signals by number, with what they do to a shell that handles none. -/
def signals : List (Nat × String × Effect) :=
  [(0, "EXIT", .none), (1, "HUP", .kills), (2, "INT", .kills), (3, "QUIT", .kills),
    (4, "ILL", .kills), (5, "TRAP", .kills), (6, "ABRT", .kills), (7, "BUS", .kills),
    (8, "FPE", .kills), (9, "KILL", .kills), (10, "USR1", .kills), (11, "SEGV", .kills),
    (12, "USR2", .kills), (13, "PIPE", .kills), (14, "ALRM", .kills), (15, "TERM", .kills),
    (16, "STKFLT", .kills), (17, "CHLD", .none), (18, "CONT", .none), (19, "STOP", .stops),
    (20, "TSTP", .stops), (21, "TTIN", .stops), (22, "TTOU", .stops), (23, "URG", .none),
    (24, "XCPU", .kills), (25, "XFSZ", .kills), (26, "VTALRM", .kills), (27, "PROF", .kills),
    (28, "WINCH", .none), (29, "POLL", .kills), (30, "PWR", .kills), (31, "SYS", .kills)]

def signal? (text : Bytes) : Option (Nat × Effect) :=
  let name := String.ofList text
  (signals.find? fun s => Decimal.render s.1 = name || s.2.1 = name || "SIG" ++ s.2.1 = name).map
    fun s => (s.1, s.2.2)

/-- What a signal does, which a trap may change for all but two of them. -/
def receive (signal : Nat) (effect : Effect) : Run Unit := do
  let m ← get
  match if signal = 9 || signal = 19 then none else m.traps.lookup signal, effect with
  | some script, _ => set { m with pending := m.pending ++ [script] }
  | none, .none => return
  | none, .stops => throw .expired
  | none, .kills => throw (.killed m.number signal)

/-- Sends a signal to the shells with these numbers; only its own is running. -/
def sendSignal (signal : Nat) (effect : Effect) : List Bytes → Run Unit
  | [] => setStatus 0
  | target :: rest => do
    if target = Decimal.digits (← get).number then
      receive signal effect
      sendSignal signal effect rest
    else complain 1 "kill: No such process"

def kill (arguments : List Bytes) : Run Unit := do
  let (signal, targets) := match arguments with
    | ['-', 's'] :: signal :: rest => (signal, rest)
    | ['-', '-'] :: rest => ("TERM".toList, rest)
    | ('-' :: signal) :: rest => (signal, if rest.head? = some ['-', '-'] then rest.tail else rest)
    | rest => ("TERM".toList, rest)
  match signal? signal with
  | none => complain 2 "kill: invalid signal number or name"
  | some (signal, effect) =>
    if targets.isEmpty then complain 2 "kill: Usage" else sendSignal signal effect targets

def setTrap (arguments : List Bytes) : Run Unit := do
  match arguments with
  | [] => setStatus 0
  | script :: names =>
    match names.mapM signal? with
    | none => complain 1 "trap: bad trap"
    | some signals => modify fun m =>
      let others := m.traps.filter fun t => t.1 ∉ signals.map (·.1)
      { m with
        traps := if script = ['-'] then others else signals.map (·.1, script) ++ others
        status := 0 }

/-- Waits until no background command runs. -/
def waitForAll (_ : List Bytes) : Run Unit := do
  let m ← get
  pass (m.jobsUntil - m.clock)
  setStatus 0

/-! ## All of them -/

def builtin? (name : String) : Option (List Bytes → Run Unit) :=
  match name with
  | ":" | "true" | "cd" | "umask" => some fun _ => setStatus 0
  | "false" => some fun _ => setStatus 1
  | "[" => some fun arguments =>
    if arguments.getLast? = some [']'] then test arguments.dropLast
    else complain 2 "[: missing ]"
  | "break" => some (leaveLoops false)
  | "continue" => some (leaveLoops true)
  | "echo" => some fun arguments => do
    if (← get).echoesPlainly then plainEcho arguments else write (echoText arguments)
  | "exit" => some exitShell
  | "export" | "readonly" => some exportNames
  | "kill" => some kill
  | "local" => some assignLocals
  | "printf" => some printFormat
  | "read" => some readNames
  | "return" => some returnFromFunction
  | "set" => some setOptions
  | "shift" => some shiftArguments
  | "test" => some test
  | "trap" => some setTrap
  | "unset" => some unsetNames
  | "wait" => some waitForAll
  | _ => none

end CecGateway.Shell
