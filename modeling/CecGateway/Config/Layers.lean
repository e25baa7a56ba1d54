import CecGateway.Config.Flags
import CecGateway.Config.Toml
import CecGateway.Config.Variables
import CecGateway.Files
import CecGateway.Text.Marker

/-!
# Layers of settings

A configuration is read from the settings of a file, the environment and the command line, each
before the one that it names, and the defaults. Only the settings that prevail are judged.
-/

namespace CecGateway.Layers

structure Place where
  arguments : List String
  environment : List (String × String) := []
  files : Files := .standard

inductive LoadError
  | badFlags
  | missingFile (path : String)
  | badFile (path : String)
  | noSettings
  | badSettings
  deriving DecidableEq, Repr

def LoadError.message : LoadError → String
  | badFlags => "bad command line"
  | missingFile path => "no configuration file " ++ path
  | badFile path => "bad configuration file " ++ path
  | noSettings => "no settings"
  | badSettings => "bad settings"

/-- The settings of a layer, or none if there is no such layer. -/
abbrev Layer := Option (List (String × Json))

def nonempty (settings : List (String × Json)) : Layer :=
  if settings.isEmpty then none else some settings

/-! ## Files -/

/-- A path that begins in the folder of another, unless it begins at the root. -/
def besides (path other : String) : String :=
  if other.toList.head? = some '/' then other
  else String.ofList (path.toList.reverse.dropWhile (· ≠ '/')).reverse ++ other

/-- The file that settings extend, if they name one; what they name has to be a path. -/
def extended? (path : String) (settings : List (String × Json)) :
    Except LoadError (Option String) :=
  match settings.lookup "extends" with
  | none => .ok none
  | some (.str other) =>
    if other.isEmpty then .error (.badFile path) else .ok (some (besides path other))
  | some _ => .error (.badFile path)

def settingsOfText (path text : String) : Except LoadError (List (String × Json)) :=
  match Toml.parse? text with
  | some (.obj members) => .ok members
  | _ => .error (.badFile path)

/-- The settings of a file, which prevail over those of the file that it extends. -/
def fileSettings (files : Files) : Nat → String → Except LoadError (List (String × Json))
  | 0, path => .error (.badFile path)
  | fuel + 1, path => do
    match files.content path with
    | .missing => .error (.missingFile path)
    | .unusable => .error (.badFile path)
    | .text text =>
      let settings ← settingsOfText path text
      match ← extended? path settings with
      | none => return settings
      | some other => return (← fileSettings files fuel other) ++ settings

def maxFiles : Nat := 64

def pathVariable : String := "CECD_CONFIG_PATH"

/-- The layer of the file that a flag names, which has to exist, or else of the one that a variable
names, which need not. -/
def fileLayer (files : Files) (flag? fallback? : Option String) : Except LoadError Layer :=
  match flag?, fallback? with
  | some path, _ => some <$> fileSettings files maxFiles path
  | none, some path =>
    if files.content path = .missing then .ok none else some <$> fileSettings files maxFiles path
  | none, none => .ok none

/-- Later layers prevail over earlier ones. -/
def merge (layers : List Layer) : Option Json :=
  let present := layers.filterMap id
  if present.isEmpty then none else some (Json.ofMembers present.flatten)

def load (p : Place) : Except LoadError Config := do
  let some flags := Flag.parse? p.arguments | throw .badFlags
  let some flagSettings := flags.mapM fun f => f.1.setting? f.2 | throw .badFlags
  let file ← fileLayer p.files (flags.lookup Flag.configPath) (p.environment.lookup pathVariable)
  let found := Variables.settings p.environment
  let some merged := merge [file, nonempty found, nonempty flagSettings.flatten]
    | throw .noSettings
  match Config.ofJson? merged with
  | some config => return config
  | none => throw .badSettings

end CecGateway.Layers
