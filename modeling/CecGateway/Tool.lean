import CecGateway.Files
import CecGateway.Hardware
import CecGateway.Shell.Run
import CecGateway.Text.Lines

/-!
# The adapter tool

The tool is started once for each native command, is given one request line, and replies with
lines and a status. All of it has to come before a deadline.
-/

namespace CecGateway

structure Tool where
  executable : String
  arguments : List String := []
  /-- How long a reply may take, in milliseconds, unless a command asks for another time. -/
  replyTimeout : Nat

namespace Tool

/-- The status of a tool that does not implement a command. -/
def notImplementedStatus : Int := 2

/-- The status of a tool that a signal has ended. -/
def signalledStatus : Int := -1

/-- How long the reply to a command may take: what its parameter `timeout` says, if that is a
positive number. -/
def deadline (tool : Tool) (command : NativeCommand) : Nat :=
  match (command.param? "timeout").bind fun text => Decimal.readBelow? UInt64.size text.toList with
  | some n => if 0 < n then n else tool.replyTimeout
  | none => tool.replyTimeout

/-- The tool can be opened if its path names a regular file. -/
def opening (tool : Tool) (files : Files) : Except Fault Unit :=
  match files.resolve tool.executable with
  | .ok file =>
    if file.isRegular then .ok () else .error (.executableNotFound tool.executable)
  | .error _ => .error (.executableNotFound tool.executable)

def interpret (command : NativeCommand) (status : Int) (lines : List String) :
    Except Fault Response :=
  if status = 0 then .ok (.lines lines)
  else if status = notImplementedStatus then .ok .notImplemented
  else .error (.nonZeroExit command.name status)

/-! ## Starting -/

def scriptBytes (bytes : List UInt8) : Shell.Bytes := bytes.map fun b => Char.ofNat b.toNat

def scriptText (text : String) : Shell.Bytes := scriptBytes (Utf8.bytes text)

def replyBytes (bytes : Shell.Bytes) : List UInt8 := bytes.map fun c => c.toNat.toUInt8

/-- The program that the first line of a script names, and its argument. -/
def interpreter? (text : List UInt8) : Option (String × List String) :=
  match scriptBytes text with
  | '#' :: '!' :: rest =>
    let line := (rest.takeWhile (· ≠ '\n')).dropWhile Shell.isBlank
    let program := line.takeWhile (!Shell.isBlank ·)
    let argument := (line.drop program.length).dropWhile Shell.isBlank
    let argument := (argument.reverse.dropWhile Shell.isBlank).reverse
    if program.isEmpty then none
    else some (Utf8.lenient (replyBytes program),
      if argument.isEmpty then [] else [Utf8.lenient (replyBytes argument)])
  | _ => none

/-- The program that is run for an executable, with all its arguments. -/
def program (tool : Tool) (files : Files) : Except StartFailure (String × List String) := do
  if tool.arguments.any (·.toList.contains '\x00') then throw .holdsNul
  let (path, file) ← files.locate tool.executable
  match file with
  | .program => return (path, tool.arguments)
  | .executable text =>
    match interpreter? text with
    | none => throw .noProgram
    | some (interpreter, arguments) =>
      match ← files.resolve interpreter with
      | .program => return (interpreter, arguments ++ path :: tool.arguments)
      | _ => throw .denied
  | _ => throw .denied

def scriptFiles (files : Files) (path : Shell.Bytes) : Option Shell.Bytes :=
  match files.resolve (Utf8.lenient (replyBytes path)) with
  | .ok file => file.text?.map scriptBytes
  | .error _ => none

def execute (tool : Tool) (files : Files) (command : NativeCommand) : Except Fault Response :=
  match tool.program files with
  | .error failure => .error (.spawnFailed command.name failure.message)
  | .ok (path, arguments) =>
    let limit := tool.deadline command
    let machine : Shell.Machine :=
      { name := scriptText path, input := scriptText (command.requestLine ++ "\n"), limit
        files := scriptFiles files }
    match Shell.startProgram machine (scriptText path) (arguments.map scriptText) with
    | .expired => .error (.timeout command.name limit)
    | .ended status reply =>
      interpret command ((status.map Int.ofNat).getD signalledStatus)
        (linesOfChunks (reply.map replyBytes))

/-- The tool as hardware. It remembers nothing from one command to the next. -/
def hardware (tool : Tool) (files : Files) : Hardware :=
  ⟨tool.opening files, fun _ command => tool.execute files command⟩

end Tool

end CecGateway
