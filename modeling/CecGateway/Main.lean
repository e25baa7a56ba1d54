import CecGateway.Console

/-! The command line of the daemon: it reads its surroundings, and writes what a run leaves. -/

namespace CecGateway

def readEnvironment : IO (List (String × String)) := do
  let found ← Flag.all.mapM fun flag => do
    let name := "CECD_" ++ flag.field.map Char.toUpper
    return (← IO.getEnv name).toList.map (name, ·)
  return found.flatten

def contents? (path : String) : IO (Option (List UInt8)) := do
  try
    return some (← IO.FS.readBinFile path).toList
  catch _ => return none

partial def addSettings (files : Files) (path : String) : IO Files := do
  match ← contents? path with
  | none => return files
  | some bytes =>
    let files := files.add path (.document bytes)
    let settings := Layers.settingsOfText path ((Utf8.strict? bytes).getD "")
    match settings.bind (Layers.extended? path) with
    | .ok (some other) =>
      if files.content other = .missing then addSettings files other else return files
    | _ => return files

def addTool (files : Files) (path : String) : IO Files := do
  match files.resolve path, ← contents? path with
  | .error _, some bytes => return files.add path (.executable bytes)
  | _, _ => return files

partial def inputBytes (stream : IO.FS.Stream) (chunks : List (List UInt8)) :
    IO (List UInt8) := do
  let chunk ← stream.read 65536
  if chunk.isEmpty then return chunks.reverse.flatten
  else inputBytes stream (chunk.toList :: chunks)

end CecGateway

open CecGateway in
def main (arguments : List String) : IO UInt32 := do
  let environment ← readEnvironment
  let flags := (Flag.parse? arguments).getD []
  let paths := (flags.lookup Flag.configPath).toList ++
    (environment.lookup Layers.pathVariable).toList
  let files ← paths.foldlM addSettings .standard
  let files ← match Layers.load { arguments, environment, files } with
    | .ok config => addTool files config.adapterCommand
    | .error _ => pure files
  let ending := Console.run { arguments, environment, files } (← inputBytes (← IO.getStdin) [])
  ending.lines.forM IO.println
  ending.complaint?.forM IO.eprintln
  return ending.status
