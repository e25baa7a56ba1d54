import CecGateway.Fault
import CecGateway.Text.Blank

/-!
# Native commands

What the adapter tool is given: a name and parameters within the tool's limits, and the one line
that carries them. Names are single words without `=`, and values have their blanks, equals and
percent signs escaped, so that the line can be taken apart again.
-/

namespace CecGateway

structure Parameter where
  name : String
  value : String
  deriving DecidableEq, Repr

/-- The value of the first parameter with this name. -/
def Parameter.lookup (name : String) (parameters : List Parameter) : Option String :=
  (parameters.find? (·.name = name)).map (·.value)

structure NativeCommand where
  name : String
  parameters : List Parameter := []
  deriving DecidableEq, Repr

namespace NativeCommand

def maxNameBytes : Nat := 32

def maxParameters : Nat := 16

def maxParameterNameBytes : Nat := 32

def maxValueBytes : Nat := 64

def checkLength (field text : String) (limit : Nat) : Except Fault Unit :=
  if limit < text.utf8ByteSize then
    .error (.limitExceeded field (Decimal.render text.utf8ByteSize ++ " bytes exceeds the " ++
      Decimal.render limit ++ " byte limit"))
  else .ok ()

/-- Characters that a name must not hold. -/
def breaksWord (c : Char) : Bool := Text.isBlank c || Text.isControl c || c = '='

def checkWord (field text : String) : Except Fault Unit :=
  if text.toList.any breaksWord then
    .error (.limitExceeded field "must not contain whitespace, control characters or '='")
  else .ok ()

def checkPrintable (field text : String) : Except Fault Unit :=
  if text.toList.any Text.isControl then
    .error (.limitExceeded field "must not contain control characters")
  else .ok ()

def new (name : String) : Except Fault NativeCommand := do
  checkLength "name" name maxNameBytes
  checkWord "name" name
  return { name }

/-- Calls that change a command in place. What such a call has changed stays changed if it fails
later on. -/
abbrev InPlace := ExceptT Fault (StateM NativeCommand)

def append (name value : String) : InPlace Unit := do
  if maxParameters ≤ (← get).parameters.length then
    throw (.limitExceeded "params" ("at most " ++ Decimal.render maxParameters ++
      " parameters are accepted"))
  checkLength "param name" name maxParameterNameBytes
  checkWord "param name" name
  checkLength name value maxValueBytes
  checkPrintable name value
  modify fun command => { command with parameters := command.parameters ++ [⟨name, value⟩] }

/-- How the call ends that appends a parameter, and the command after it. -/
def offer (command : NativeCommand) (p : Parameter) : Except Fault Unit × NativeCommand :=
  (append p.name p.value).run.run command

def push (command : NativeCommand) (name value : String) : Except Fault NativeCommand :=
  match command.offer ⟨name, value⟩ with
  | (.ok (), next) => .ok next
  | (.error fault, _) => .error fault

def param? (command : NativeCommand) (name : String) : Option String :=
  Parameter.lookup name command.parameters

def escape (c : Char) : List Char :=
  if c = ' ' then ['%', '2', '0']
  else if c = '=' then ['%', '3', 'D']
  else if c = '%' then ['%', '2', '5']
  else [c]

def parameterChars (p : Parameter) : List Char :=
  ' ' :: p.name.toList ++ '=' :: p.value.toList.flatMap escape

def requestChars (command : NativeCommand) : List Char :=
  command.name.toList ++ command.parameters.flatMap parameterChars

/-- The line that is written to the tool: the name and then ` name=value` for each parameter. -/
def requestLine (command : NativeCommand) : String := String.ofList command.requestChars

end NativeCommand

end CecGateway
