import CecGateway.Shell.Arithmetic

/-!
# Escapes and formats

What `echo` and `printf` write: backslash escapes, and formats whose directives take arguments and
which begin anew as long as arguments are left.
-/

namespace CecGateway.Shell

def isOctal (c : Char) : Bool := '0' ≤ c && c ≤ '7'

/-- The byte that is written by what follows a backslash, and the text after it. Before anything
without such a meaning the backslash stands for itself. -/
def escaped (text : Bytes) : Char × Bytes :=
  match text with
  | '\\' :: rest => ('\\', rest)
  | 'a' :: rest => ('\x07', rest)
  | 'b' :: rest => ('\x08', rest)
  | 'f' :: rest => ('\x0c', rest)
  | 'n' :: rest => ('\n', rest)
  | 'r' :: rest => ('\r', rest)
  | 't' :: rest => ('\t', rest)
  | 'v' :: rest => ('\x0b', rest)
  | _ =>
    match leadingNumber 8 (text.take 3) with
    | some (n, rest) => (Char.ofNat (n % 256), rest ++ text.drop 3)
    | none => ('\\', text)

/-- A text with its escapes carried out, in which a zero may precede octal digits, and whether
`\c` has ended all output. -/
def echoed : Nat → Bytes → Bytes × Bool
  | 0, text => (text, false)
  | fuel + 1, text =>
    match text with
    | [] => ([], false)
    | '\\' :: 'c' :: _ => ([], true)
    | '\\' :: rest =>
      let (c, rest) := match rest with
        | '0' :: d :: _ => escaped (if isOctal d then rest.drop 1 else rest)
        | _ => escaped rest
      let (more, stops) := echoed fuel rest
      (c :: more, stops)
    | c :: rest =>
      let (more, stops) := echoed fuel rest
      (c :: more, stops)

def withEscapes (text : Bytes) : Bytes × Bool := echoed text.length text

def echoedWords (ending : Bytes) : List Bytes → Bytes
  | [] => ending
  | [argument] =>
    let (text, stops) := withEscapes argument
    if stops then text else text ++ ending
  | argument :: rest =>
    let (text, stops) := withEscapes argument
    if stops then text else text ++ ' ' :: echoedWords ending rest

/-- What `echo` writes: its arguments, and a newline unless the first asks for none. -/
def echoText : List Bytes → Bytes
  | ['-', 'n'] :: rest => echoedWords [] rest
  | arguments => echoedWords ['\n'] arguments

/-! ## Formats -/

inductive Size
  | none
  | fixed (n : Nat)
  | argument
  deriving DecidableEq, Repr

inductive Piece
  | text (c : Char)
  | directive (flags : Bytes) (width precision : Size) (kind : Char)
  /-- Nothing can be written from here on. -/
  | broken
  deriving DecidableEq, Repr

def leadingSize (text : Bytes) : Size × Bytes :=
  match text with
  | '*' :: rest => (.argument, rest)
  | _ =>
    let digits := text.takeWhile Decimal.isDigit
    (if digits.isEmpty then .none else .fixed (Decimal.valueOf digits), text.drop digits.length)

def directiveKinds : Bytes := ['s', 'b', 'c', 'd', 'i', 'u', 'o', 'x', 'X']

def leadingDirective (text : Bytes) : Option (Piece × Bytes) :=
  let flags := text.takeWhile fun c => c = '#' || c = '-' || c = '+' || c = ' ' || c = '0'
  let (width, rest) := leadingSize (text.drop flags.length)
  let (precision, rest) := match rest with
    | '.' :: rest =>
      let (size, rest) := leadingSize rest
      (if size = .none then .fixed 0 else size, rest)
    | _ => (.none, rest)
  match rest with
  | kind :: rest =>
    if kind ∈ directiveKinds then some (.directive flags width precision kind, rest) else none
  | [] => none

def pieces : Nat → Bytes → List Piece
  | 0, _ => []
  | fuel + 1, text =>
    match text with
    | [] => []
    | '\\' :: rest =>
      let (c, rest) := escaped rest
      .text c :: pieces fuel rest
    | '%' :: '%' :: rest => .text '%' :: pieces fuel rest
    | '%' :: rest =>
      match leadingDirective rest with
      | some (piece, rest) => piece :: pieces fuel rest
      | none => [.broken]
    | c :: rest => .text c :: pieces fuel rest

/-- The number at the start of an argument, and whether it is the whole argument. -/
def argumentNumber (argument : Bytes) : Int × Bool :=
  match argument with
  | '\'' :: c :: _ | '"' :: c :: _ => (c.toNat, true)
  | _ =>
    let text := argument.dropWhile fun c => isBlank c || c = '\n'
    let (isNegative, body) := match text with
      | '-' :: rest => (true, rest)
      | '+' :: rest => (false, rest)
      | _ => (false, text)
    match leadingConstant body with
    | some (n, rest) => (if isNegative then -n else n, rest.isEmpty)
    | none => (0, argument.isEmpty)

def padded (flags : Bytes) (width : Nat) (text : Bytes) : Bytes :=
  let fill := List.replicate (width - text.length) ' '
  if '-' ∈ flags then text ++ fill else fill ++ text

/-- The digits of a number after its sign or base, filled up with zeros where a flag says so. -/
def numeral (flags : Bytes) (width : Nat) (precision : Option Nat) (kind : Char) (n : Int) :
    Bytes :=
  let isSigned := kind = 'd' || kind = 'i'
  let base := if kind = 'o' then 8 else if kind = 'x' || kind = 'X' then 16 else 10
  let magnitude := if isSigned then n.natAbs else bits n
  let digits := Nat.toDigits base magnitude
  let digits := if kind = 'X' then digits.map Char.toUpper else digits
  let digits := if precision = some 0 && magnitude = 0 then [] else digits
  let digits := List.replicate (precision.getD 1 - digits.length) '0' ++ digits
  let sign : Bytes :=
    if isSigned then
      if n < 0 then ['-'] else if '+' ∈ flags then ['+'] else if ' ' ∈ flags then [' '] else []
    else if '#' ∈ flags && magnitude ≠ 0 then
      if kind = 'x' then ['0', 'x'] else if kind = 'X' then ['0', 'X']
      else if kind = 'o' && digits.head? ≠ some '0' then ['0'] else []
    else []
  if '0' ∈ flags && !('-' ∈ flags) && precision.isNone then
    sign ++ List.replicate (width - sign.length - digits.length) '0' ++ digits
  else padded flags width (sign ++ digits)

structure Printed where
  arguments : List Bytes
  chunks : List Bytes := []
  /-- Why the status is no success: an argument that is no number, or a broken directive. -/
  failure? : Option Nat := none
  isStopped : Bool := false

namespace Printed

def write (p : Printed) (text : Bytes) : Printed := { p with chunks := text :: p.chunks }

/-- Takes an argument; missing ones are empty. -/
def take (p : Printed) : Bytes × Printed :=
  (p.arguments.headD [], { p with arguments := p.arguments.tail })

def takeNumber (p : Printed) : Int × Printed :=
  let (argument, p) := p.take
  let (n, isWhole) := argumentNumber argument
  let size : Int := UInt64.size
  let clamped := max (-size / 2) (min n (size - 1))
  (clamped, if isWhole && clamped = n then p else { p with failure? := some 1 })

def takeSize (p : Printed) : Size → Option Int × Printed
  | .none => (Option.none, p)
  | .fixed n => (some n, p)
  | .argument =>
    let (n, p) := p.takeNumber
    (some n, p)

def directive (p : Printed) (flags : Bytes) (width precision : Size) (kind : Char) : Printed :=
  let (width, p) := p.takeSize width
  let (precision, p) := p.takeSize precision
  let flags := if width.any (· < 0) then '-' :: flags else flags
  let width := (width.getD 0).natAbs
  let precision := precision.bind fun n => if n < 0 then none else some n.toNat
  let cut (text : Bytes) : Bytes := (precision.map text.take).getD text
  match kind with
  | 's' =>
    let (argument, p) := p.take
    p.write (padded flags width (cut argument))
  | 'b' =>
    let (argument, p) := p.take
    let (text, stops) := withEscapes argument
    { p.write (padded flags width (cut text)) with isStopped := stops }
  | 'c' =>
    let (argument, p) := p.take
    p.write (padded flags width [argument.headD '\x00'])
  | _ =>
    let (n, p) := p.takeNumber
    p.write (numeral flags width precision kind n)

def step (p : Printed) (piece : Piece) : Printed :=
  if p.isStopped then p
  else match piece with
    | .text c => p.write [c]
    | .directive flags width precision kind => p.directive flags width precision kind
    | .broken => { p with failure? := some 2, isStopped := true }

/-- Carries out a format again as long as it takes arguments and some are left. -/
def run (format : List Piece) : Nat → Printed → Printed
  | 0, p => p
  | fuel + 1, p =>
    let next := format.foldl step p
    if next.isStopped || next.arguments.isEmpty ||
        next.arguments.length = p.arguments.length then next
    else run format fuel next

end Printed

/-- What `printf` writes, and its status if it could not carry out its format. -/
def printfText (format : Bytes) (arguments : List Bytes) : Bytes × Option Nat :=
  let p := Printed.run (pieces format.length format) (arguments.length + 1) { arguments }
  (p.chunks.reverse.flatten, p.failure?)

end CecGateway.Shell
