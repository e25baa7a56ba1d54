import CecGateway.Shell.Format
import CecGateway.Shell.Machine

/-!
# Programs

The programs that scripts start and that may be adapter tools themselves, apart from the shell.
-/

namespace CecGateway.Shell

inductive Program
  | cat
  | echo
  | falsehood
  | printf
  | sleep
  | truth
  | wc
  deriving DecidableEq, Repr

def Program.named? (name : String) : Option Program :=
  match name with
  | "cat" => some .cat
  | "echo" => some .echo
  | "false" => some .falsehood
  | "printf" => some .printf
  | "sleep" => some .sleep
  | "true" => some .truth
  | "wc" => some .wc
  | _ => none

/-- Whether an argument is one or more of these letters after a dash. -/
def isOption (letters : List Char) (argument : Bytes) : Bool :=
  match argument with
  | '-' :: c :: rest => (c :: rest).all (· ∈ letters)
  | _ => false

/-! ## cat -/

def readFileText (path : Bytes) : Run (Option Bytes) := do
  if path = ['-'] || path = "/dev/stdin".toList then return some (← takeInput)
  else if path = "/dev/null".toList then return some []
  else return (← get).files path

/-- Writes the texts of files one after another. -/
def copyFiles (status : Nat) : List Bytes → Run Unit
  | [] => setStatus status
  | path :: rest => do
    match ← readFileText path with
    | some text => do
      write text
      copyFiles (max status (← get).status) rest
    | none => do
      complain 1 "cat: no such file"
      copyFiles 1 rest

def concatenate (arguments : List Bytes) : Run Unit := do
  match arguments.filter fun a => !isOption ['u'] a && a ≠ ['-', '-'] with
  | [] => write (← takeInput)
  | paths => copyFiles 0 paths

/-! ## sleep -/

/-- A duration in milliseconds: seconds with an optional fraction, and an optional unit. -/
def duration? (text : Bytes) : Option Nat := do
  let whole := text.takeWhile Decimal.isDigit
  let rest := text.drop whole.length
  let (fraction, rest) := match rest with
    | '.' :: rest =>
      let digits := rest.takeWhile Decimal.isDigit
      (digits, rest.drop digits.length)
    | _ => ([], rest)
  let unit ← match rest with
    | [] | ['s'] => some 1
    | ['m'] => some 60
    | ['h'] => some 3600
    | ['d'] => some 86400
    | _ => none
  if whole.isEmpty && fraction.isEmpty then none
  else return Decimal.valueOf (whole ++ fraction) * unit * 1000 / Nat.pow 10 fraction.length

def rest (arguments : List Bytes) : Run Unit := do
  match arguments.mapM duration? with
  | none => complain 1 "sleep: invalid time interval"
  | some [] => complain 1 "sleep: missing operand"
  | some durations => do
    pass (durations.foldl (· + ·) 0)
    setStatus 0

/-! ## wc -/

/-- Whether the last character was part of a word, and the words begun so far. -/
def countWords (text : Bytes) : Nat :=
  let isSpace (c : Char) : Bool := c = ' ' || ('\t' ≤ c && c ≤ '\x0d')
  (text.foldl (fun (inWord, n) c =>
    if isSpace c then (false, n) else (true, if inWord then n else n + 1)) (false, 0)).2

/-- Counts lines, words and bytes of the input; several counts stand in columns. -/
def count (arguments : List Bytes) : Run Unit := do
  let options := arguments.filter (isOption ['c', 'l', 'm', 'w'])
  if options.length ≠ arguments.length then complain 1 "wc: no such file"
  else do
    let text ← takeInput
    let isAsked (letters : List Char) : Bool :=
      options.isEmpty || options.any fun o => letters.any (· ∈ o)
    let counts :=
      (if isAsked ['l'] then [text.count '\n'] else []) ++
        (if isAsked ['w'] then [countWords text] else []) ++
        (if isAsked ['c', 'm'] then [text.length] else [])
    let line := match counts with
      | [n] => Decimal.digits n
      | _ => [' '].intercalate (counts.map fun n => padded [] 7 (Decimal.digits n))
    write (line ++ ['\n'])

/-! ## echo and printf -/

/-- Writes arguments as they are, or with escapes after `-e`. -/
def plainEcho (arguments : List Bytes) : Run Unit := do
  let options := arguments.takeWhile (isOption ['n', 'e', 'E'])
  let words := arguments.drop options.length
  let hasEscapes : Bool :=
    (options.flatten.filter fun c => c = 'e' || c = 'E').getLast? = some 'e'
  let ending := if options.any ('n' ∈ ·) then [] else ['\n']
  write (if hasEscapes then echoedWords ending words else [' '].intercalate words ++ ending)

def printFormat (arguments : List Bytes) : Run Unit := do
  match (match arguments with
    | ['-', '-'] :: rest => rest
    | _ => arguments) with
  | [] => complain 2 "printf: usage: printf format [arg ...]"
  | format :: arguments => do
    let (text, failure?) := printfText format arguments
    write text
    failure?.forM setStatus

def Program.run (program : Program) (arguments : List Bytes) : Run Unit :=
  match program with
  | .cat => concatenate arguments
  | .echo => plainEcho arguments
  | .falsehood => setStatus 1
  | .printf => printFormat arguments
  | .sleep => rest arguments
  | .truth => setStatus 0
  | .wc => count arguments

end CecGateway.Shell
