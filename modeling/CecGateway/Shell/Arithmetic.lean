import CecGateway.Shell.Variables

/-!
# Arithmetic

Expressions over words of 64 bits with sign. Reading an expression and taking its value fail as a
whole.
-/

namespace CecGateway.Shell

inductive Operator
  | add | subtract | multiply | divide | remainder
  | shiftLeft | shiftRight
  | less | atMost | greater | atLeast | equal | unequal
  | conjoin | exclude | disjoin
  deriving DecidableEq, Repr

inductive Expression
  | number (n : Int)
  | parameter (name : Bytes)
  | negation (e : Expression)
  | inverse (e : Expression)
  | complement (e : Expression)
  | apply (op : Operator) (a b : Expression)
  | both (a b : Expression)
  | either (a b : Expression)
  | choice (test yes no : Expression)
  /-- Sets a variable, to its value with an operator applied if there is one. -/
  | assign (name : Bytes) (op : Option Operator) (e : Expression)

/-! ## Numbers -/

def digitIn (base : Nat) (c : Char) : Option Nat :=
  let value :=
    if Decimal.isDigit c then c.toNat - '0'.toNat
    else if 'a' ≤ c && c ≤ 'f' then c.toNat - 'a'.toNat + 10
    else if 'A' ≤ c && c ≤ 'F' then c.toNat - 'A'.toNat + 10
    else base
  if value < base then some value else none

/-- The longest number in a base at the start of a text, if there is a digit. -/
def leadingNumber (base : Nat) (text : Bytes) : Option (Nat × Bytes) :=
  let digits := text.takeWhile fun c => (digitIn base c).isSome
  if digits.isEmpty then none
  else some (digits.foldl (fun n c => base * n + (digitIn base c).getD 0) 0,
    text.drop digits.length)

/-- A number in decimal, after `0` in octal, or after `0x` in hexadecimal. -/
def leadingConstant (text : Bytes) : Option (Nat × Bytes) :=
  match text with
  | '0' :: 'x' :: rest | '0' :: 'X' :: rest => leadingNumber 16 rest
  | '0' :: _ => leadingNumber 8 text
  | _ => leadingNumber 10 text

def wrap (n : Int) : Int := n.bmod UInt64.size

/-- The number that the value of a variable is; an empty value is zero. -/
def numberOf? (text : Bytes) : Option Int := do
  let isSpace (c : Char) : Bool := isBlank c || c = '\n'
  let text := text.dropWhile isSpace
  if text.isEmpty then return 0
  let (isNegative, body) := match text with
    | '-' :: rest => (true, rest)
    | '+' :: rest => (false, rest)
    | _ => (false, text)
  let (n, rest) ← leadingConstant body
  if rest.any (!isSpace ·) then none
  else return wrap (if isNegative then -n else n)

/-! ## Reading -/

/-- Operators that join two operands, the loosest first; those of a row bind alike. -/
def operatorRows : List (List (String × Operator)) :=
  [[("|", .disjoin)], [("^", .exclude)], [("&", .conjoin)],
    [("==", .equal), ("!=", .unequal)],
    [("<=", .atMost), (">=", .atLeast), ("<", .less), (">", .greater)],
    [("<<", .shiftLeft), (">>", .shiftRight)],
    [("+", .add), ("-", .subtract)],
    [("*", .multiply), ("/", .divide), ("%", .remainder)]]

def skipSpace (text : Bytes) : Bytes := text.dropWhile fun c => isBlank c || c = '\n'

/-- Reads one of these operators where no longer operator stands. -/
def leadingOperator (row : List (String × Operator)) (text : Bytes) :
    Option (Operator × Bytes) :=
  let text := skipSpace text
  row.findSome? fun (name, op) =>
    if name.toList.isPrefixOf text then
      let rest := text.drop name.length
      let goesOn : Bool := match rest with
        | '=' :: _ => name.toList.getLast? ≠ some '='
        | c :: _ => name.toList = [c] && (c = '|' || c = '&' || c = '<' || c = '>')
        | [] => false
      if goesOn then none else some (op, rest)
    else none

/-- What is applied by an assignment, and the text after its equals sign. -/
def leadingAssignment (text : Bytes) : Option (Option Operator × Bytes) :=
  let text := skipSpace text
  match text with
  | '=' :: '=' :: _ => none
  | '=' :: rest => some (none, rest)
  | _ =>
    [("+", Operator.add), ("-", .subtract), ("*", .multiply), ("/", .divide),
      ("%", .remainder), ("<<", .shiftLeft), (">>", .shiftRight), ("&", .conjoin),
      ("^", .exclude), ("|", .disjoin)].findSome? fun (name, op) =>
      if (name.toList ++ ['=']).isPrefixOf text then some (some op, text.drop (name.length + 1))
      else none

mutual

/-- An assignment or a choice, which reach as far as they can. -/
def expression : Nat → Bytes → Option (Expression × Bytes)
  | 0, _ => none
  | fuel + 1, text => do
    let text := skipSpace text
    let name := text.takeWhile isNameChar
    let assigned :=
      if text.head?.any isNameStart then leadingAssignment (text.drop name.length) else none
    match assigned with
    | some (op, rest) => do
      let (e, rest) ← expression fuel rest
      return (.assign name op e, rest)
    | none => do
      let (test, rest) ← disjunction fuel text
      match skipSpace rest with
      | '?' :: rest => do
        let (yes, rest) ← expression fuel rest
        match skipSpace rest with
        | ':' :: rest => do
          let (no, rest) ← expression fuel rest
          return (.choice test yes no, rest)
        | _ => none
      | rest => return (test, rest)

def disjunction : Nat → Bytes → Option (Expression × Bytes)
  | 0, _ => none
  | fuel + 1, text => do
    let (a, rest) ← conjunction fuel text
    match skipSpace rest with
    | '|' :: '|' :: rest => do
      let (b, rest) ← disjunction fuel rest
      return (.either a b, rest)
    | rest => return (a, rest)

def conjunction : Nat → Bytes → Option (Expression × Bytes)
  | 0, _ => none
  | fuel + 1, text => do
    let (a, rest) ← joined fuel operatorRows text
    match skipSpace rest with
    | '&' :: '&' :: rest => do
      let (b, rest) ← conjunction fuel rest
      return (.both a b, rest)
    | rest => return (a, rest)

def joined : Nat → List (List (String × Operator)) → Bytes → Option (Expression × Bytes)
  | 0, _, _ => none
  | fuel + 1, [], text => operand fuel text
  | fuel + 1, row :: rows, text => do
    let (a, rest) ← joined fuel rows text
    joinedRest fuel row rows a rest

def joinedRest : Nat → List (String × Operator) → List (List (String × Operator)) →
    Expression → Bytes → Option (Expression × Bytes)
  | 0, _, _, _, _ => none
  | fuel + 1, row, rows, a, text =>
    match leadingOperator row text with
    | none => some (a, text)
    | some (op, rest) => do
      let (b, rest) ← joined fuel rows rest
      joinedRest fuel row rows (.apply op a b) rest

def operand : Nat → Bytes → Option (Expression × Bytes)
  | 0, _ => none
  | fuel + 1, text =>
    match skipSpace text with
    | '(' :: rest => do
      let (e, rest) ← expression fuel rest
      match skipSpace rest with
      | ')' :: rest => return (e, rest)
      | _ => none
    | '-' :: rest => do
      let (e, rest) ← operand fuel rest
      return (.negation e, rest)
    | '+' :: rest => operand fuel rest
    | '!' :: rest => do
      let (e, rest) ← operand fuel rest
      return (.inverse e, rest)
    | '~' :: rest => do
      let (e, rest) ← operand fuel rest
      return (.complement e, rest)
    | c :: rest =>
      let text := c :: rest
      if isNameStart c then
        let name := text.takeWhile isNameChar
        some (.parameter name, text.drop name.length)
      else do
        let (n, rest) ← leadingConstant text
        return (.number (wrap n), rest)
    | [] => none

end

def Expression.ofText? (text : Bytes) : Option Expression := do
  if (skipSpace text).isEmpty then return .number 0
  let (e, rest) ← expression (16 * text.length + 16) text
  if (skipSpace rest).isEmpty then return e else none

/-! ## Values -/

def truth (isTrue : Bool) : Int := if isTrue then 1 else 0

def bits (n : Int) : Nat := (n % UInt64.size).toNat

def Operator.value (op : Operator) (a b : Int) : Option Int :=
  match op with
  | add => some (wrap (a + b))
  | subtract => some (wrap (a - b))
  | multiply => some (wrap (a * b))
  | divide => if b = 0 then none else some (wrap (a.tdiv b))
  | remainder => if b = 0 then none else some (a.tmod b)
  | shiftLeft => some (wrap (a * Nat.pow 2 (bits b % 64)))
  | shiftRight => some (a >>> (bits b % 64))
  | less => some (truth (a < b))
  | atMost => some (truth (a ≤ b))
  | greater => some (truth (b < a))
  | atLeast => some (truth (b ≤ a))
  | equal => some (truth (a = b))
  | unequal => some (truth (a ≠ b))
  | conjoin => some (wrap (bits a &&& bits b : Nat))
  | exclude => some (wrap (bits a ^^^ bits b : Nat))
  | disjoin => some (wrap (bits a ||| bits b : Nat))

/-- The value of an expression, and the variables after its assignments. -/
def Expression.value (vs : Variables) : Expression → Option (Int × Variables)
  | number n => some (n, vs)
  | parameter name => do return (← numberOf? ((vs.get? name).getD []), vs)
  | negation e => do
    let (a, vs) ← e.value vs
    return (wrap (-a), vs)
  | inverse e => do
    let (a, vs) ← e.value vs
    return (truth (a = 0), vs)
  | complement e => do
    let (a, vs) ← e.value vs
    return (-a - 1, vs)
  | apply op a b => do
    let (a, vs) ← a.value vs
    let (b, vs) ← b.value vs
    return (← op.value a b, vs)
  | both a b => do
    let (a, vs) ← a.value vs
    if a = 0 then return (0, vs)
    else
      let (b, vs) ← b.value vs
      return (truth (b ≠ 0), vs)
  | either a b => do
    let (a, vs) ← a.value vs
    if a ≠ 0 then return (1, vs)
    else
      let (b, vs) ← b.value vs
      return (truth (b ≠ 0), vs)
  | choice test yes no => do
    let (a, vs) ← test.value vs
    if a ≠ 0 then yes.value vs else no.value vs
  | assign name op e => do
    let (b, vs) ← e.value vs
    let value ← match op with
      | none => some b
      | some op => do op.value (← numberOf? ((vs.get? name).getD [])) b
    return (value, vs.set name (Decimal.intDigits value))

end CecGateway.Shell
