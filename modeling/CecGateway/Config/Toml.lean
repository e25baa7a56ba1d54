import CecGateway.Config.Toml.Table
import CecGateway.Config.Toml.Words

/-!
# TOML

Configuration files are written in TOML. A document is read as a JSON object: its tables become
objects, and times, which no setting has, empty ones.
-/

namespace CecGateway.Toml

/-! ## Values -/

mutual

/-- A value in which containers are nested no deeper than `depth`. -/
def value (depth : Nat) : Nat → Input → Option (Json × Input)
  | 0, _ => none
  | fuel + 1, input =>
    match input, depth with
    | '"' :: _, _ | '\'' :: _, _ => do
      let (text, rest) ← string input
      return (.str (String.ofList text), rest)
    | '[' :: _, 0 | '\x7b' :: _, 0 => none
    | '[' :: rest, depth + 1 => items depth fuel (skipGaps rest.length rest)
    | '\x7b' :: rest, depth + 1 =>
      match skipBlanks rest with
      | '\x7d' :: rest => some (.obj [], rest)
      | rest => do
        let (t, rest) ← members depth fuel [] rest
        return (Json.ofMembers (entriesToJson t), rest)
    | _, _ => atom input

/-- The items of an array up to its closing bracket; a comma may follow the last. -/
def items (depth : Nat) : Nat → Input → Option (Json × Input)
  | 0, _ => none
  | _ + 1, ']' :: rest => some (.arr [], rest)
  | fuel + 1, input => do
    let (v, rest) ← value depth fuel input
    match skipGaps rest.length rest with
    | ',' :: rest => do
      match ← items depth fuel (skipGaps rest.length rest) with
      | (.arr vs, rest) => return (.arr (v :: vs), rest)
      | _ => none
    | ']' :: rest => return (.arr [v], rest)
    | _ => none

def members (depth : Nat) : Nat → Table → Input → Option (Table × Input)
  | 0, _, _ => none
  | fuel + 1, t, input => do
    let (path, rest) ← key input
    match rest with
    | '=' :: rest => do
      let (v, rest) ← value depth fuel (skipBlanks rest)
      let t ← define [] path v t
      match skipBlanks rest with
      | ',' :: rest => members depth fuel t rest
      | '\x7d' :: rest => return (t, rest)
      | _ => none
    | _ => none

end

/-! ## Documents -/

def lines : Nat → List String → Table → Input → Option Table
  | 0, _, _, _ => none
  | fuel + 1, place, t, input =>
    match skipGaps input.length input with
    | [] => some t
    | '[' :: '[' :: rest => do
      let (path, rest) ← key rest
      match rest with
      | ']' :: ']' :: rest => do lines fuel path (← addTable path t) (← endOfLine rest)
      | _ => none
    | '[' :: rest => do
      let (path, rest) ← key rest
      match rest with
      | ']' :: rest => do lines fuel path (← openTable path t) (← endOfLine rest)
      | _ => none
    | rest => do
      let (path, rest) ← key rest
      match rest with
      | '=' :: rest => do
        let (v, rest) ← value (nestingLimit - 1) (2 * rest.length + 2) (skipBlanks rest)
        lines fuel place (← define place path v t) (← endOfLine rest)
      | _ => none

/-- A mark before the first character says that the text is in UTF-8. -/
def byteOrderMark : Char := '\uFEFF'

def parse? (text : String) : Option Json := do
  let input := match text.toList with
    | c :: rest => if c = byteOrderMark then rest else c :: rest
    | [] => []
  let t ← lines (input.length + 1) [] [] input
  return Json.ofMembers (entriesToJson t)

end CecGateway.Toml
