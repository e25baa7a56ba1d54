import CecGateway.Text.Decimal

/-!
# Scripts

Adapter tools are scripts in the command language of the shell. A script is read one complete
command line at a time, so that the lines before an error are carried out. Texts are lists of
bytes, each written as the character with its number.
-/

namespace CecGateway.Shell

abbrev Bytes := List Char

inductive Modifier
  | plain
  | length
  /-- `-`, `=`, `+` or `?` with a word; after a colon an empty value counts as unset. -/
  | substitute (kind : Char) (hasColon : Bool) (word : Bytes)
  /-- Drops the shortest or longest part at the start or the end that matches a pattern. -/
  | strip (fromEnd isLongest : Bool) (pattern : Bytes)
  deriving DecidableEq, Repr

/-- A piece of a word; texts inside expansions are read when they are expanded. -/
inductive Part
  | text (bytes : Bytes) (isQuoted : Bool)
  | parameter (name : Bytes) (modifier : Modifier) (isQuoted : Bool)
  | arithmetic (expression : Bytes) (isQuoted : Bool)
  | output (script : Bytes) (isQuoted : Bool)
  deriving DecidableEq, Repr

abbrev Word := List Part

inductive Redirection
  /-- To the file, or with `&` to the descriptor, that the word names. -/
  | toFile (descriptor : Nat) (target : Word)
  | toDescriptor (descriptor : Nat) (target : Word)
  | fromFile (target : Word)
  | fromText (text : Word)
  deriving DecidableEq, Repr

inductive Node
  | simple (assignments : List (Bytes × Word)) (words : List Word)
  | redirected (body : Node) (redirections : List Redirection)
  | pipeline (first second : Node)
  | negated (body : Node)
  | both (first second : Node)
  | either (first second : Node)
  | sequence (first second : Node)
  | background (body : Node)
  | subshell (body : Node)
  | branch (test yes no : Node)
  | loop (isUntil : Bool) (test body : Node)
  | forEach (name : Bytes) (words : Option (List Word)) (body : Node)
  | choice (word : Word) (branches : List (List Word × Node))
  | function (name : Bytes) (body : Node)

/-- Does nothing. -/
def Node.skip : Node := .simple [] []

/-! ## Characters -/

abbrev Input := List Char

def isBlank (c : Char) : Bool := c = ' ' || c = '\t'

def isMeta (c : Char) : Bool :=
  isBlank c || c = '\n' || c = ';' || c = '&' || c = '|' || c = '<' || c = '>' || c = '(' || c = ')'

def isNameStart (c : Char) : Bool := c.isAlpha || c = '_'

def isNameChar (c : Char) : Bool := c.isAlphanum || c = '_'

def isSpecial (c : Char) : Bool :=
  c = '@' || c = '*' || c = '#' || c = '?' || c = '-' || c = '$' || c = '!'

def skipBlanks : Input → Input
  | '\\' :: '\n' :: rest => skipBlanks rest
  | '#' :: rest => rest.dropWhile (· ≠ '\n')
  | c :: rest => if isBlank c then skipBlanks rest else c :: rest
  | [] => []

def skipLines : Nat → Input → Input
  | 0, input => input
  | fuel + 1, input =>
    match skipBlanks input with
    | '\n' :: rest => skipLines fuel rest
    | rest => rest

/-! ## Quoting -/

/-- The raw text up to a closing character that is not quoted or nested, and the rest after it. -/
def enclosed (close : Char) : Nat → Input → Option (Bytes × Input)
  | 0, _ => none
  | fuel + 1, input =>
    let nested (taken : Bytes) (inner : Char) (rest : Input) : Option (Bytes × Input) := do
      let (text, rest) ← enclosed inner fuel rest
      let (more, rest) ← enclosed close fuel rest
      return (taken ++ text ++ inner :: more, rest)
    match input with
    | [] => none
    | c :: rest =>
      if c = close then some ([], rest)
      else match c, rest with
        | '\\', d :: rest => do
          let (more, rest) ← enclosed close fuel rest
          return ('\\' :: d :: more, rest)
        | '\'', rest =>
          if close = '"' then do
            let (more, rest) ← enclosed close fuel rest
            return ('\'' :: more, rest)
          else
            let text := rest.takeWhile (· ≠ '\'')
            match rest.drop text.length with
            | [] => none
            | _ :: rest => do
              let (more, rest) ← enclosed close fuel rest
              return ('\'' :: text ++ '\'' :: more, rest)
        | '"', rest => nested ['"'] '"' rest
        | '\x60', rest => nested ['\x60'] '\x60' rest
        | '$', '(' :: rest => nested ['$', '('] ')' rest
        | '$', '\x7b' :: rest => nested ['$', '\x7b'] '\x7d' rest
        | '(', rest =>
          if close = ')' then nested ['('] ')' rest
          else do
            let (more, rest) ← enclosed close fuel rest
            return ('(' :: more, rest)
        | c, rest => do
          let (more, rest) ← enclosed close fuel rest
          return (c :: more, rest)

def bracedParameter (text : Bytes) : Option (Bytes × Modifier) :=
  let takeName (text : Bytes) : Option (Bytes × Bytes) :=
    match text with
    | [] => none
    | c :: rest =>
      if isSpecial c then some ([c], rest)
      else if Decimal.isDigit c then
        let digits := text.takeWhile Decimal.isDigit
        some (digits, text.drop digits.length)
      else if isNameStart c then
        let name := text.takeWhile isNameChar
        some (name, text.drop name.length)
      else none
  let modified (text : Bytes) : Option (Bytes × Modifier) := do
    let (name, rest) ← takeName text
    match rest with
    | [] => return (name, .plain)
    | '%' :: '%' :: pattern => return (name, .strip true true pattern)
    | '%' :: pattern => return (name, .strip true false pattern)
    | '#' :: '#' :: pattern => return (name, .strip false true pattern)
    | '#' :: pattern => return (name, .strip false false pattern)
    | ':' :: kind :: word =>
      if kind ∈ ['-', '=', '+', '?'] then return (name, .substitute kind true word) else none
    | kind :: word =>
      if kind ∈ ['-', '=', '+', '?'] then return (name, .substitute kind false word) else none
  match text with
  | '#' :: c :: rest =>
    match takeName (c :: rest) with
    | some (name, []) => some (name, .length)
    | _ => modified text
  | _ => modified text

/-- What follows a dollar sign; a dollar sign before anything else stands for itself. -/
def dollar (isQuoted : Bool) (fuel : Nat) (input : Input) : Option (Part × Input) :=
  match input with
  | '(' :: '(' :: rest =>
    let arithmetic : Option (Part × Input) := do
      let (text, rest) ← enclosed ')' fuel rest
      match rest with
      | ')' :: rest => return (.arithmetic text isQuoted, rest)
      | _ => none
    arithmetic.or do
      let (text, rest) ← enclosed ')' fuel ('(' :: rest)
      return (.output text isQuoted, rest)
  | '(' :: rest => do
    let (text, rest) ← enclosed ')' fuel rest
    return (.output text isQuoted, rest)
  | '\x7b' :: rest => do
    let (text, rest) ← enclosed '\x7d' fuel rest
    let (name, modifier) ← bracedParameter text
    return (.parameter name modifier isQuoted, rest)
  | c :: rest =>
    if isSpecial c || Decimal.isDigit c then some (.parameter [c] .plain isQuoted, rest)
    else if isNameStart c then
      let name := input.takeWhile isNameChar
      some (.parameter name .plain isQuoted, input.drop name.length)
    else some (.text ['$'] isQuoted, input)
  | [] => some (.text ['$'] isQuoted, [])

/-- The script between backquotes, in which a backslash quotes itself, a dollar and a backquote, and
within double quotes those too. -/
def unquoteScript (isQuoted : Bool) : Bytes → Bytes
  | '\\' :: c :: rest =>
    if c = '\\' || c = '$' || c = '\x60' || (isQuoted && c = '"') then
      c :: unquoteScript isQuoted rest
    else '\\' :: c :: unquoteScript isQuoted rest
  | c :: rest => c :: unquoteScript isQuoted rest
  | [] => []

def backquoted (isQuoted : Bool) (fuel : Nat) (input : Input) : Option (Part × Input) := do
  let (text, rest) ← enclosed '\x60' fuel input
  return (.output (unquoteScript isQuoted text) isQuoted, rest)

/-- Adds a quoted character to a word. -/
def consQuoted (c : Char) : Word → Word
  | .text text true :: parts => .text (c :: text) true :: parts
  | parts => .text [c] true :: parts

/-- The parts of a quoted text up to the double quote that closes it, or to the end if none does:
then double quotes stand for themselves. -/
def quotedParts (isClosed : Bool) : Nat → Input → Option (Word × Input)
  | 0, _ => none
  | fuel + 1, input =>
    match input with
    | [] => if isClosed then none else some ([], [])
    | '\\' :: '\n' :: rest => quotedParts isClosed fuel rest
    | '\\' :: c :: rest => do
      let (parts, rest) ← quotedParts isClosed fuel rest
      if c = '$' || c = '\x60' || c = '\\' || (c = '"' && isClosed) then
        return (consQuoted c parts, rest)
      else return (consQuoted '\\' (consQuoted c parts), rest)
    | '$' :: rest => do
      let (part, rest) ← dollar true fuel rest
      let (parts, rest) ← quotedParts isClosed fuel rest
      return (part :: parts, rest)
    | '\x60' :: rest => do
      let (part, rest) ← backquoted true fuel rest
      let (parts, rest) ← quotedParts isClosed fuel rest
      return (part :: parts, rest)
    | c :: rest =>
      if c = '"' && isClosed then some ([], rest)
      else do
        let (parts, rest) ← quotedParts isClosed fuel rest
        return (consQuoted c parts, rest)

/-- The parts of a word up to a character that ends it. With `isWhole`, no character does. -/
def wordParts (isWhole : Bool) : Nat → Input → Option (Word × Input)
  | 0, _ => none
  | fuel + 1, input =>
    let andThen (parts : Word) (rest : Input) : Option (Word × Input) := do
      let (more, rest) ← wordParts isWhole fuel rest
      return (parts ++ more, rest)
    match input with
    | [] => some ([], [])
    | '\\' :: '\n' :: rest => andThen [] rest
    | '\\' :: c :: rest => andThen [.text [c] true] rest
    | '\'' :: rest =>
      let text := rest.takeWhile (· ≠ '\'')
      match rest.drop text.length with
      | [] => none
      | _ :: rest => andThen [.text text true] rest
    | '"' :: rest => do
      let (parts, rest) ← quotedParts true fuel rest
      andThen (if parts.isEmpty then [.text [] true] else parts) rest
    | '$' :: rest => do
      let (part, rest) ← dollar false fuel rest
      andThen [part] rest
    | '\x60' :: rest => do
      let (part, rest) ← backquoted false fuel rest
      andThen [part] rest
    | c :: rest =>
      if isMeta c && !isWhole then some ([], input)
      else do
        let (parts, rest) ← wordParts isWhole fuel rest
        match parts with
        | .text text false :: parts => return (.text (c :: text) false :: parts, rest)
        | parts => return (.text [c] false :: parts, rest)

def word (input : Input) : Option (Word × Input) := do
  let (parts, rest) ← wordParts false (input.length + 1) input
  if parts.isEmpty then none else return (parts, rest)

/-- A text inside an expansion, read as one word. -/
def innerWord (text : Bytes) : Option Word := (wordParts true (text.length + 1) text).map (·.1)

/-- A text that is expanded, but in which no quote has a meaning. -/
def expandedText (text : Bytes) : Option Word :=
  (quotedParts false (text.length + 1) text).map (·.1)

/-- A text that is quoted as a whole. -/
def quotedWord (text : Bytes) : Option Word :=
  (quotedParts true (text.length + 2) (text ++ ['"'])).map (·.1)

/-- The word as it stands, if no part of it is quoted or expanded. -/
def bare? : Word → Option Bytes
  | [.text text false] => some text
  | _ => none

/-! ## Commands -/

def reserved : List String :=
  ["if", "then", "elif", "else", "fi", "while", "until", "for", "do", "done", "case", "esac",
    "in", "\x7b", "\x7d", "!"]

def keyword (text : String) (input : Input) : Option Input := do
  let (w, rest) ← word (skipBlanks input)
  if bare? w = some text.toList then return rest else none

def lineKeyword (text : String) (input : Input) : Option Input :=
  keyword text (skipLines input.length input)

def endsList (input : Input) : Bool :=
  match input with
  | [] | ')' :: _ => true
  | ';' :: ';' :: _ => true
  | _ => ["then", "elif", "else", "fi", "do", "done", "esac", "\x7d"].any
      fun k => (keyword k input).isSome

/-- Cuts the lines of a text before the line that ends it; tabs before a line may be dropped. -/
def hereLines (dropsTabs : Bool) (delimiter : Bytes) : Nat → Input → Bytes × Input
  | 0, input => ([], input)
  | fuel + 1, input =>
    let raw := input.takeWhile (· ≠ '\n')
    let line := if dropsTabs then raw.dropWhile (· = '\t') else raw
    let rest := input.drop raw.length
    if line = delimiter then ([], rest.drop 1)
    else match rest with
      | [] => (line, [])
      | _ :: rest =>
        let (text, rest) := hereLines dropsTabs delimiter fuel rest
        (line ++ '\n' :: text, rest)

def plainText (w : Word) : Bytes :=
  w.flatMap fun | .text text _ => text | _ => []

/-- A text that follows the current line, taken out of the input. -/
def hereText (dropsTabs : Bool) (input : Input) : Option (Redirection × Input) := do
  let (delimiter, rest) ← word (skipBlanks input)
  let line := rest.takeWhile (· ≠ '\n')
  let body := rest.drop (line.length + 1)
  let (text, after) := hereLines dropsTabs (plainText delimiter) rest.length body
  let isQuoted := delimiter.any fun | .text _ isQuoted => isQuoted | _ => false
  let parts ← if isQuoted then some [.text text true] else expandedText text
  return (.fromText parts, line ++ '\n' :: after)

/-- A redirection, which may begin with the number of a descriptor. -/
def redirection (input : Input) : Option (Redirection × Input) := do
  let digits := input.takeWhile Decimal.isDigit
  let descriptor (default : Nat) : Nat :=
    if digits.isEmpty then default else Decimal.valueOf digits
  let target (rest : Input) : Option (Word × Input) := word (skipBlanks rest)
  match input.drop digits.length with
  | '>' :: '&' :: rest => do
    let (w, rest) ← target rest
    return (.toDescriptor (descriptor 1) w, rest)
  | '>' :: '>' :: rest => do
    let (w, rest) ← target rest
    return (.toFile (descriptor 1) w, rest)
  | '>' :: '|' :: rest => do
    let (w, rest) ← target rest
    return (.toFile (descriptor 1) w, rest)
  | '>' :: rest => do
    let (w, rest) ← target rest
    return (.toFile (descriptor 1) w, rest)
  | '<' :: '<' :: '-' :: rest => hereText true rest
  | '<' :: '<' :: rest => hereText false rest
  | '<' :: '&' :: rest => do
    let (_, rest) ← target rest
    return (.toDescriptor 0 [], rest)
  | '<' :: rest => do
    let (w, rest) ← target rest
    return (.fromFile w, rest)
  | _ => none

def isRedirection (input : Input) : Bool :=
  match input.dropWhile Decimal.isDigit with
  | '<' :: _ | '>' :: _ => true
  | _ => false

def redirections : Nat → Input → Option (List Redirection × Input)
  | 0, _ => none
  | fuel + 1, input =>
    let input := skipBlanks input
    if isRedirection input then do
      let (r, rest) ← redirection input
      let (rs, rest) ← redirections fuel rest
      return (r :: rs, rest)
    else some ([], input)

/-- Splits `name=value` where a command begins. -/
def assignment? : Word → Option (Bytes × Word)
  | .text text false :: parts =>
    let name := text.takeWhile isNameChar
    match text.drop name.length with
    | '=' :: value =>
      if name.isEmpty || name.head?.any Decimal.isDigit then none
      else some (name, if value.isEmpty then parts else .text value false :: parts)
    | _ => none
  | _ => none

def simpleParts : Nat → Input → Option (List Word × List Redirection × Input)
  | 0, _ => none
  | fuel + 1, input =>
    let input := skipBlanks input
    if isRedirection input then do
      let (r, rest) ← redirection input
      let (ws, rs, rest) ← simpleParts fuel rest
      return (ws, r :: rs, rest)
    else match input with
      | [] => some ([], [], [])
      | c :: _ =>
        if isMeta c then some ([], [], input)
        else do
          let (w, rest) ← word input
          let (ws, rs, rest) ← simpleParts fuel rest
          return (w :: ws, rs, rest)

def splitAssignments : List Word → List (Bytes × Word) × List Word
  | [] => ([], [])
  | w :: ws =>
    match assignment? w with
    | some a =>
      let (as, ws) := splitAssignments ws
      (a :: as, ws)
    | none => ([], w :: ws)

def withRedirections (body : Node) (rs : List Redirection) : Node :=
  if rs.isEmpty then body else .redirected body rs

def simple (input : Input) : Option (Node × Input) := do
  let (words, rs, rest) ← simpleParts (input.length + 1) input
  if words.isEmpty && rs.isEmpty then none
  let (assignments, words) := splitAssignments words
  return (withRedirections (.simple assignments words) rs, rest)

def functionName? (input : Input) : Option (Bytes × Input) :=
  let name := input.takeWhile isNameChar
  if name.isEmpty || name.head?.any Decimal.isDigit then none
  else match skipBlanks (input.drop name.length) with
    | '(' :: rest =>
      match skipBlanks rest with
      | ')' :: rest => some (name, rest)
      | _ => none
    | _ => none

/-- The words of a `for`, up to the end of its line. -/
def listedWords (input : Input) : Option (List Word × Input) := do
  let (ws, rs, rest) ← simpleParts (input.length + 1) input
  if rs.isEmpty then return (ws, rest) else none

def patterns : Nat → Input → Option (List Word × Input)
  | 0, _ => none
  | fuel + 1, input => do
    let (w, rest) ← word (skipBlanks input)
    match skipBlanks rest with
    | '|' :: rest => do
      let (ws, rest) ← patterns fuel rest
      return (w :: ws, rest)
    | ')' :: rest => return ([w], rest)
    | _ => none

/-- Skips one semicolon or newline, if there is one. -/
def skipSeparator (input : Input) : Input :=
  match skipBlanks input with
  | ';' :: rest => rest
  | rest => rest

mutual

/-- A list of commands up to what ends it. With `isLine`, a newline ends it too. -/
def commands (isLine : Bool) : Nat → Input → Option (Node × Input)
  | 0, _ => none
  | fuel + 1, input => do
    let (first, rest) ← andOr fuel input
    let go (node : Node) (rest : Input) : Option (Node × Input) := do
      let rest := if isLine then skipBlanks rest else skipLines rest.length rest
      let stops := match rest with
        | '\n' :: _ => true
        | _ => endsList rest
      if stops then return (node, rest)
      else do
        let (more, rest) ← commands isLine fuel rest
        return (.sequence node more, rest)
    match skipBlanks rest with
    | ';' :: ';' :: rest => return (first, ';' :: ';' :: rest)
    | ';' :: rest => go first rest
    | '&' :: rest => go (.background first) rest
    | '\n' :: rest => if isLine then return (first, '\n' :: rest) else go first rest
    | rest => return (first, rest)

def andOr : Nat → Input → Option (Node × Input)
  | 0, _ => none
  | fuel + 1, input => do
    let (first, rest) ← pipelineOf fuel input
    andOrRest fuel first rest

def andOrRest : Nat → Node → Input → Option (Node × Input)
  | 0, _, _ => none
  | fuel + 1, first, input =>
    match skipBlanks input with
    | '&' :: '&' :: rest => do
      let (second, rest) ← pipelineOf fuel (skipLines rest.length rest)
      andOrRest fuel (.both first second) rest
    | '|' :: '|' :: rest => do
      let (second, rest) ← pipelineOf fuel (skipLines rest.length rest)
      andOrRest fuel (.either first second) rest
    | rest => some (first, rest)

def pipelineOf : Nat → Input → Option (Node × Input)
  | 0, _ => none
  | fuel + 1, input =>
    match keyword "!" input with
    | some rest => do
      let (body, rest) ← stages fuel rest
      return (.negated body, rest)
    | none => stages fuel input

def stages : Nat → Input → Option (Node × Input)
  | 0, _ => none
  | fuel + 1, input => do
    let (first, rest) ← command fuel input
    match skipBlanks rest with
    | '|' :: '|' :: rest => return (first, '|' :: '|' :: rest)
    | '|' :: rest => do
      let (second, rest) ← stages fuel (skipLines rest.length rest)
      return (.pipeline first second, rest)
    | rest => return (first, rest)

def command : Nat → Input → Option (Node × Input)
  | 0, _ => none
  | fuel + 1, input => do
    let input := skipBlanks input
    match ← compound fuel input with
    | some (body, rest) =>
      let (rs, rest) ← redirections (rest.length + 1) rest
      return (withRedirections body rs, rest)
    | none =>
      match functionName? input with
      | some (name, rest) => do
        let (body, rest) ← command fuel (skipLines rest.length rest)
        return (.function name body, rest)
      | none =>
        if reserved.any fun k => (keyword k input).isSome then none else simple input

/-- A list of commands between two reserved words, up to the second. -/
def block : Nat → Input → Option (Node × Input)
  | 0, _ => none
  | fuel + 1, input => commands false fuel (skipLines input.length input)

/-- A compound command, if one begins here. -/
def compound : Nat → Input → Option (Option (Node × Input))
  | 0, _ => none
  | fuel + 1, input =>
    match input with
    | '(' :: rest => do
      let (body, rest) ← block fuel rest
      match skipLines rest.length rest with
      | ')' :: rest => return some (.subshell body, rest)
      | _ => none
    | _ =>
      if let some rest := keyword "\x7b" input then do
        let (body, rest) ← block fuel rest
        return some (body, ← lineKeyword "\x7d" rest)
      else if let some rest := keyword "if" input then do
        return some (← conditional fuel rest)
      else if let some rest := keyword "while" input then do
        return some (← loopOf false fuel rest)
      else if let some rest := keyword "until" input then do
        return some (← loopOf true fuel rest)
      else if let some rest := keyword "for" input then do
        return some (← forOf fuel rest)
      else if let some rest := keyword "case" input then do
        let (w, rest) ← word (skipBlanks rest)
        let rest ← lineKeyword "in" rest
        let (branches, rest) ← branchesOf fuel rest
        return some (.choice w branches, rest)
      else some none

def conditional : Nat → Input → Option (Node × Input)
  | 0, _ => none
  | fuel + 1, input => do
    let (test, rest) ← block fuel input
    let (yes, rest) ← block fuel (← lineKeyword "then" rest)
    match lineKeyword "elif" rest, lineKeyword "else" rest with
    | some rest, _ => do
      let (no, rest) ← conditional fuel rest
      return (.branch test yes no, rest)
    | none, some rest => do
      let (no, rest) ← block fuel rest
      return (.branch test yes no, ← lineKeyword "fi" rest)
    | none, none => do return (.branch test yes .skip, ← lineKeyword "fi" rest)

def loopOf (isUntil : Bool) : Nat → Input → Option (Node × Input)
  | 0, _ => none
  | fuel + 1, input => do
    let (test, rest) ← block fuel input
    let (body, rest) ← block fuel (← lineKeyword "do" rest)
    return (.loop isUntil test body, ← lineKeyword "done" rest)

def forOf : Nat → Input → Option (Node × Input)
  | 0, _ => none
  | fuel + 1, input => do
    let (w, rest) ← word (skipBlanks input)
    let name ← bare? w
    let (words, rest) ← match lineKeyword "in" rest with
      | some rest => do
        let (ws, rest) ← listedWords rest
        some (some ws, rest)
      | none => some (none, rest)
    let (body, rest) ← block fuel (← lineKeyword "do" (skipSeparator rest))
    return (.forEach name words body, ← lineKeyword "done" rest)

/-- The branches of a `case` up to its end. -/
def branchesOf : Nat → Input → Option (List (List Word × Node) × Input)
  | 0, _ => none
  | fuel + 1, input =>
    let input := skipLines input.length input
    match keyword "esac" input with
    | some rest => some ([], rest)
    | none => do
      let rest := match input with
        | '(' :: rest => rest
        | _ => input
      let (ps, rest) ← patterns rest.length rest
      let rest := skipLines rest.length rest
      let isEmpty := match rest with
        | ';' :: ';' :: _ => true
        | _ => (keyword "esac" rest).isSome
      let (body, rest) ← if isEmpty then some (.skip, rest) else commands false fuel rest
      match skipLines rest.length rest with
      | ';' :: ';' :: rest => do
        let (branches, rest) ← branchesOf fuel rest
        return ((ps, body) :: branches, rest)
      | rest => do return ([(ps, body)], ← lineKeyword "esac" rest)

end

/-- The next complete command line of a script, and what follows it. -/
def nextLine (script : Input) : Option (Node × Input) := do
  let (node, rest) ← commands true (12 * script.length + 12) script
  match skipBlanks rest with
  | [] => return (node, [])
  | '\n' :: rest => return (node, rest)
  | _ => none

end CecGateway.Shell
