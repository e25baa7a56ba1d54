import CecGateway.Config

/-!
# Flags

Settings from the command line. Every flag takes a value, which follows as the next word or is
attached, and comes at most once; there are no other words.
-/

namespace CecGateway

structure Flag where
  field : String
  long : String
  letter : Option Char
  deriving DecidableEq, Repr

namespace Flag

def configPath : Flag := ⟨"config_path", "config-path", none⟩

def all : List Flag :=
  [⟨"adapter_command", "adapter-command", some 'a'⟩,
    ⟨"default_adapter", "default-adapter", some 'd'⟩,
    ⟨"reply_timeout_ms", "reply-timeout-ms", some 'r'⟩,
    ⟨"log_filter", "log-filter", some 'l'⟩,
    ⟨"log_format", "log-format", some 'L'⟩,
    configPath]

/-- A word that starts like a flag; a single dash does not. -/
def isFlagLike (word : String) : Bool :=
  match word.toList with
  | '-' :: _ :: _ => true
  | _ => false

def ofWord? (word : String) : Option (Flag × Option String) :=
  match word.toList with
  | '-' :: '-' :: name => do
    let long := name.takeWhile (· ≠ '=')
    let flag ← all.find? (·.long = String.ofList long)
    match name.drop long.length with
    | [] => return (flag, none)
    | _ :: value => return (flag, some (String.ofList value))
  | '-' :: letter :: attached => do
    let flag ← all.find? (·.letter = some letter)
    match attached with
    | [] => return (flag, none)
    | '=' :: value => return (flag, some (String.ofList value))
    | value => return (flag, some (String.ofList value))
  | _ => none

def parse? : List String → Option (List (Flag × String))
  | [] => some []
  | ["--"] => some []
  | word :: rest => do
    let (flag, attached) ← ofWord? word
    let others ← match attached, rest with
      | some value, rest => (parse? rest).map ((flag, value) :: ·)
      | none, value :: rest =>
        if isFlagLike value then none else (parse? rest).map ((flag, value) :: ·)
      | none, [] => none
    if (others.tail.any (·.1 = flag)) then none else return others

def setting? (flag : Flag) (value : String) : Option (List (String × Json)) :=
  match flag.field with
  | "reply_timeout_ms" => do
    return [(flag.field, .int (← Decimal.readBelow? UInt64.size value.toList))]
  | "log_format" => do return [(flag.field, .str (← LogFormat.ofText? value).name)]
  | "config_path" => some []
  | _ => some [(flag.field, .str value)]

end Flag

end CecGateway
