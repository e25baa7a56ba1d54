import CecGateway.Shell.Arithmetic
import CecGateway.Shell.Machine

/-!
# Tests

The conditions that `test` and `[` decide. Without an answer a condition cannot be read.
-/

namespace CecGateway.Shell

namespace Condition

def isDevice (path : Bytes) : Bool := path = "/dev/null".toList

def isFolder (path : Bytes) : Bool :=
  ["/", ".", "/bin", "/dev", "/tmp", "/usr", "/usr/bin", "/etc"].any (·.toList = path)

def unary? (files : Bytes → Option Bytes) (name : String) (a : Bytes) : Option Bool :=
  match name with
  | "-n" => some (!a.isEmpty)
  | "-z" => some a.isEmpty
  | "-e" | "-r" | "-w" =>
    some (isDevice a || isFolder a || (files a).isSome)
  | "-f" => some (files a).isSome
  | "-s" => some ((files a).any (!·.isEmpty) || isFolder a)
  | "-x" => some (isFolder a || (files a).isSome)
  | "-d" => some (isFolder a)
  | "-c" => some (isDevice a)
  | "-b" | "-p" | "-h" | "-L" | "-S" | "-t" | "-g" | "-u" | "-k" => some false
  | _ => none

/-- Whether a word joins two operands; comparisons of numbers may fail. -/
def binary? (name : String) : Option (Bytes → Bytes → Option Bool) :=
  let numbers (holds : Int → Int → Bool) : Option (Bytes → Bytes → Option Bool) :=
    some fun a b => do
      if a.isEmpty || b.isEmpty then none
      else return holds (← decimal? a) (← decimal? b)
  match name with
  | "=" => some fun a b => some (a = b)
  | "!=" => some fun a b => some (a ≠ b)
  | "<" => some fun a b => some (a < b)
  | ">" => some fun a b => some (b < a)
  | "-eq" => numbers (· = ·)
  | "-ne" => numbers (· ≠ ·)
  | "-lt" => numbers (· < ·)
  | "-le" => numbers (· ≤ ·)
  | "-gt" => numbers fun a b => b < a
  | "-ge" => numbers fun a b => b ≤ a
  | _ => none
where
  decimal? (text : Bytes) : Option Int := do
    let text := ((text.dropWhile isBlank).reverse.dropWhile isBlank).reverse
    let (isNegative, body) := match text with
      | '-' :: rest => (true, rest)
      | '+' :: rest => (false, rest)
      | _ => (false, text)
    if body.isEmpty || !body.all Decimal.isDigit then none
    else return if isNegative then -(Decimal.valueOf body : Int) else Decimal.valueOf body

mutual

/-- Conditions joined by `-o`, and the words after them. -/
def disjunction (files : Bytes → Option Bytes) : Nat → List Bytes → Option (Bool × List Bytes)
  | 0, _ => none
  | fuel + 1, words => do
    let (a, rest) ← conjunction files fuel words
    match rest with
    | ['-', 'o'] :: rest => do
      let (b, rest) ← disjunction files fuel rest
      return (a || b, rest)
    | _ => return (a, rest)

def conjunction (files : Bytes → Option Bytes) : Nat → List Bytes → Option (Bool × List Bytes)
  | 0, _ => none
  | fuel + 1, words => do
    let (a, rest) ← primary files fuel words
    match rest with
    | ['-', 'a'] :: rest => do
      let (b, rest) ← conjunction files fuel rest
      return (a && b, rest)
    | _ => return (a, rest)

def primary (files : Bytes → Option Bytes) : Nat → List Bytes → Option (Bool × List Bytes)
  | 0, _ => none
  | fuel + 1, words =>
    match words with
    | [] => none
    | a :: rest =>
      let joined : Option (Option Bool × List Bytes) :=
        match rest with
        | op :: b :: rest => (binary? (String.ofList op)).map fun f => (f a b, rest)
        | _ => none
      match joined with
      | some (answer, rest) => answer.map (·, rest)
      | none =>
        if a = ['!'] && !rest.isEmpty then do
          let (b, rest) ← primary files fuel rest
          return (!b, rest)
        else if a = ['('] && !rest.isEmpty then do
          let (b, rest) ← disjunction files fuel rest
          match rest with
          | [')'] :: rest => return (b, rest)
          | _ => none
        else match rest with
          | b :: rest' =>
            match unary? files (String.ofList a) b with
            | some answer => some (answer, rest')
            | none => some (!a.isEmpty, rest)
          | [] => some (!a.isEmpty, [])

end

/-- What the words of a condition say; no words are false. -/
def decide? (files : Bytes → Option Bytes) (words : List Bytes) : Option Bool := do
  if words.isEmpty then return false
  let (answer, rest) ← disjunction files (4 * words.length + 4) words
  if rest.isEmpty then return answer else none

end Condition

/-- Status 0 for a condition that holds, 1 for one that does not, and 2 for none. -/
def test (words : List Bytes) : Run Unit := do
  match Condition.decide? (← get).files words with
  | some true => setStatus 0
  | some false => setStatus 1
  | none => complain 2 "test: bad condition"

end CecGateway.Shell
