import CecGateway.Shell.Arithmetic
import CecGateway.Shell.Machine

/-!
# Expansion

Words become fields: parameters, arithmetic and the output of scripts take the place of what
names them, and what they leave unquoted is cut where separators stand.
-/

namespace CecGateway.Shell

def Machine.parameter? (m : Machine) (name : Bytes) : Option Bytes :=
  match name with
  | ['#'] => some (Decimal.digits m.arguments.length)
  | ['?'] => some (Decimal.digits m.status)
  | ['$'] => some (Decimal.digits m.number)
  | ['-'] => some []
  | ['!'] => none
  | _ =>
    if name.all Decimal.isDigit then
      if Decimal.valueOf name = 0 then some m.name
      else m.arguments[Decimal.valueOf name - 1]?
    else m.store.get? name

def Machine.separators (m : Machine) : Bytes :=
  (m.store.get? "IFS".toList).getD [' ', '\t', '\n']

def marksOf (isQuoted : Bool) (value : Bytes) : List Mark :=
  if isQuoted then .quoted :: value.map .kept else value.map .loose

/-- The marks of all arguments: apart, unless a quoted star joins them. -/
def Machine.argumentMarks (m : Machine) (name : Bytes) (isQuoted : Bool) : List Mark :=
  if isQuoted && name = ['*'] then
    let separator := match m.store.get? "IFS".toList with
      | some text => text.take 1
      | none => [' ']
    marksOf true (separator.intercalate m.arguments)
  else [Mark.cut].intercalate (m.arguments.map (marksOf isQuoted))

def withoutLastLines (text : Bytes) : Bytes := (text.reverse.dropWhile (· = '\n')).reverse

/-- Characters as written inside an unquoted expansion separate fields too. -/
def Mark.loosen : Mark → Mark
  | plain c => loose c
  | m => m

/-- The marks of a word, with a way to run scripts for their output. -/
def expandWith (output : Bytes → Run Bytes) : Nat → Word → Run (List Mark)
  | 0, _ => return []
  | fuel + 1, parts => do
    let inner (isQuoted : Bool) (text : Bytes) : Run (List Mark) := do
      let word? := if isQuoted then quotedWord (text.filter (· ≠ '"')) else innerWord text
      match word? with
      | some word => do
        let marks ← expandWith output fuel word
        return if isQuoted then marks else marks.map .loosen
      | none => do
        complain 2 "Syntax error: bad substitution"
        throw .exited
    let parameter (name : Bytes) (modifier : Modifier) (isQuoted : Bool) : Run (List Mark) := do
      let m ← get
      let isMany := name = ['@'] || name = ['*']
      let value := if isMany then some ([' '].intercalate m.arguments) else m.parameter? name
      let isOptional := match modifier with
        | .substitute .. => true
        | _ => isMany
      if value.isNone && m.stopsOnUnset && !isOptional then
        complain 2 (String.ofList name ++ ": parameter not set")
        throw .exited
      let present :=
        if isMany then m.argumentMarks name isQuoted else marksOf isQuoted (value.getD [])
      match modifier with
      | .plain => return present
      | .length => return marksOf isQuoted (Decimal.digits (value.getD []).length)
      | .strip fromEnd isLongest text =>
        let marks ← inner false text
        return marksOf isQuoted (stripped fromEnd isLongest (pattern marks) (value.getD []))
      | .substitute kind hasColon word =>
        let isSet := value.any fun v => !(hasColon && v.isEmpty)
        match kind with
        | '+' => if isSet then inner isQuoted word else return marksOf isQuoted []
        | '=' =>
          if isSet then return present
          else do
            let marks ← inner isQuoted word
            modify fun m => { m with store := m.store.set name (flat marks) }
            return marks
        | '?' =>
          if isSet then return present
          else do
            let marks ← inner isQuoted word
            complain 2 (String.ofList (name ++ ": ".toList ++
              (if word.isEmpty then "parameter not set".toList else flat marks)))
            throw .exited
        | _ => if isSet then return present else inner isQuoted word
    let part : Part → Run (List Mark)
      | .text text isQuoted =>
        return if isQuoted then .quoted :: text.map .kept else text.map .plain
      | .parameter name modifier isQuoted => parameter name modifier isQuoted
      | .arithmetic text isQuoted => do
        let marks ← inner true text
        let m ← get
        match (Expression.ofText? (flat marks)).bind (·.value m.store) with
        | some (n, store) =>
          set { m with store }
          return marksOf isQuoted (Decimal.intDigits n)
        | none => do
          complain 2 "arithmetic expression: expecting primary"
          throw .exited
      | .output script isQuoted => do
        return marksOf isQuoted (withoutLastLines (← output script))
    let marks ← parts.mapM fun p => do
      let marks ← part p
      spend marks.length
      return marks
    return marks.flatten

/-- Expansions are nested less deeply than this. -/
def maxNesting : Nat := 100

def expand (output : Bytes → Run Bytes) (word : Word) : Run (List Mark) :=
  expandWith output maxNesting word

/-- The text of a word that is not cut. -/
def expandText (output : Bytes → Run Bytes) (word : Word) : Run Bytes :=
  return flat (← expand output word)

def expandWords (output : Bytes → Run Bytes) (words : List Word) : Run (List Bytes) := do
  let cuts ← words.mapM fun word => do
    let marks ← expand output word
    return fields (← get).separators marks
  return cuts.flatten

end CecGateway.Shell
