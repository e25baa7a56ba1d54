import CecGateway.Text.Utf8

/-!
# Files

The files of the system that the adapter tool is started on, and what starting a file by its path
comes to.
-/

namespace CecGateway

inductive File
  /-- A program that comes with the system. -/
  | program
  | executable (text : List UInt8)
  | document (text : List UInt8)
  | device
  | folder
  deriving DecidableEq, Repr

def File.isRegular : File → Bool
  | program | executable _ | document _ => true
  | device | folder => false

def File.text? : File → Option (List UInt8)
  | executable text | document text => some text
  | _ => none

inductive StartFailure
  | notFound
  | denied
  | notAFolder
  | nameTooLong
  | noProgram
  | holdsNul
  deriving DecidableEq, Repr

def StartFailure.message : StartFailure → String
  | notFound => "No such file or directory (os error 2)"
  | noProgram => "Exec format error (os error 8)"
  | denied => "Permission denied (os error 13)"
  | notAFolder => "Not a directory (os error 20)"
  | nameTooLong => "File name too long (os error 36)"
  | holdsNul => "nul byte found in provided data"

/-- The files of a system by their path, which begins at the root and names no folder twice. -/
abbrev Files := List String → Option File

namespace Files

/-- Paths that do not begin at the root begin here. -/
def currentFolder : List String := ["var", "lib"]

def folders : List (List String) :=
  [[], ["bin"], ["boot"], ["dev"], ["dev", "shm"], ["etc"], ["home"], ["lib"], ["media"], ["mnt"],
    ["opt"], ["proc"], ["proc", "self"], ["root"], ["run"], ["sbin"], ["srv"], ["sys"], ["tmp"],
    ["usr"], ["usr", "bin"], ["usr", "lib"], ["usr", "local"], ["usr", "local", "bin"],
    ["usr", "sbin"], ["usr", "share"], ["var"], currentFolder, ["var", "log"], ["var", "tmp"]]

def programs : List String :=
  ["[", "bash", "cat", "dash", "echo", "env", "false", "kill", "printf", "sh", "sleep", "test",
    "true", "wc"]

def documents : List (String × String) :=
  [("group", "root:x:0:\n"), ("hostname", "localhost\n"), ("hosts", "127.0.0.1\tlocalhost\n"),
    ("os-release", "ID=linux\n"), ("passwd", "root:x:0:0:root:/root:/bin/sh\n"),
    ("resolv.conf", "nameserver 127.0.0.1\n"), ("shells", "/bin/sh\n")]

def standard : Files := fun path =>
  if path ∈ folders then some .folder
  else match path with
    | ["bin", name] | ["usr", "bin", name] => if name ∈ programs then some .program else none
    | ["dev", name] =>
      if ["full", "null", "random", "tty", "urandom", "zero"].contains name then some .device
      else none
    | ["etc", name] => (documents.lookup name).map fun text => .document (Utf8.bytes text)
    | _ => none

/-- Where a path begins: in the root, or in the current folder. -/
def origin (path : String) : List String :=
  if path.toList.head? = some '/' then [] else currentFolder

def add (files : Files) (path : String) (file : File) : Files :=
  let place := origin path ++ (path.splitOn "/").filter (· ≠ "")
  fun p => if p = place then some file else if p.isPrefixOf place then some .folder else files p

def walk (files : Files) : List String → List String → Except StartFailure (List String)
  | at_, [] => .ok at_
  | at_, part :: parts =>
    match files at_ with
    | none => .error .notFound
    | some .folder =>
      if 255 < part.utf8ByteSize then .error .nameTooLong
      else if part = "" || part = "." then walk files at_ parts
      else if part = ".." then walk files at_.dropLast parts
      else walk files (at_ ++ [part]) parts
    | some _ => .error .notAFolder

def resolve (files : Files) (path : String) : Except StartFailure File := do
  if path.toList.contains '\x00' then throw .holdsNul
  if path = "" then throw .notFound
  if 4096 ≤ path.utf8ByteSize then throw .nameTooLong
  let found ← files.walk (origin path) (path.splitOn "/")
  match files found with
  | some file => return file
  | none => throw .notFound

inductive Content
  | missing
  /-- There is no text that could be read. -/
  | unusable
  | text (text : String)
  deriving DecidableEq, Repr

def content (files : Files) (path : String) : Content :=
  match files.resolve path with
  | .error .notFound => .missing
  | .error _ => .unusable
  | .ok file => ((file.text?.bind Utf8.strict?).map .text).getD .unusable

def searchFolders : List String := ["/usr/local/bin/", "/usr/bin/", "/bin/"]

def locate (files : Files) (command : String) : Except StartFailure (String × File) :=
  if command.toList.contains '/' || command = "" then
    (files.resolve command).map (command, ·)
  else
    match searchFolders.findSome? fun folder =>
      (files.resolve (folder ++ command)).toOption.map (folder ++ command, ·) with
    | some found => .ok found
    | none => .error (if command.toList.contains '\x00' then .holdsNul else .notFound)

end Files

end CecGateway
