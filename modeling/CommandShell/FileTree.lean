import CommandShell.Host
import CommandShell.NameMap
import CommandShell.Path

/-!
# Files in memory

A file tree holds directories and files by their names from the root on, and a
host in memory has a file tree and keeps the text that is written to it.
-/

namespace CommandShell

inductive FileEntry where
  | file (text : String)
  | directory
  deriving DecidableEq, Repr, Inhabited

/-- Files and directories, by the path that leads to them from the root.  The
root itself is always a directory. -/
structure FileTree where
  entries : NameMap FileEntry := ∅
  workingDirectory : List String := []

namespace FileTree

/-- The path from the root that names spell out. -/
def absolute (names : List String) : String :=
  String.join (names.map fun name => "/" ++ name)

/-- What is at the end of a path from the root. -/
def entry? (tree : FileTree) (names : List String) : Option FileEntry :=
  if names.isEmpty then some .directory
  else tree.entries.find? (absolute names)

/-- Whether a path from the root leads through a file. -/
def isBlocked (tree : FileTree) (names : List String) : Bool :=
  (Path.beginnings names).dropLast.any fun around =>
    match tree.entry? around with
    | some (.file _) => true
    | _ => false

/-- Whether a text can be a path at all. -/
def isUsable (path : String) : Bool :=
  !path.isEmpty && !path.toList.contains '\x00'

/-- Whether a path ends as that of a directory. -/
def namesDirectory (path : String) : Bool :=
  path.endsWith "/" || path.endsWith "/."

/-- What a path leads to, or why there is no way there. -/
def look (tree : FileTree) (path : String) : Except ReadFailure FileEntry :=
  let names := Path.resolve tree.workingDirectory path
  if path.isEmpty then .error .notFound
  else if !isUsable path || tree.isBlocked names then .error .unreadable
  else match tree.entry? names with
    | none => .error .notFound
    | some .directory => .ok .directory
    | some (.file text) =>
        if namesDirectory path then .error .unreadable else .ok (.file text)

def pathExists (tree : FileTree) (path : String) : Bool :=
  (tree.look path).isOk

def readFile (tree : FileTree) (path : String) : Except ReadFailure String :=
  match tree.look path with
  | .ok (.file text) => .ok text
  | .ok .directory => .error .unreadable
  | .error failure => .error failure

/-- Create a directory and those around it that are missing. -/
def createNames (tree : FileTree) (names : List String) : Option FileTree :=
  (Path.beginnings names).foldlM
    (fun tree around =>
      match tree.entry? around with
      | some .directory => some tree
      | some (.file _) => none
      | none => some { tree with
          entries := tree.entries.insert (absolute around) .directory })
    tree

/-- Create the directory at a path and those around it that are missing.  The
empty path is the working directory. -/
def createDirectory (tree : FileTree) (path : String) : Option FileTree :=
  if path.isEmpty then some tree
  else if !isUsable path then none
  else tree.createNames (Path.resolve tree.workingDirectory path)

/-- Write a file anew.  Its directory has to be there. -/
def writeFile (tree : FileTree) (path text : String) : Option FileTree :=
  let names := Path.resolve tree.workingDirectory path
  if !isUsable path || namesDirectory path then none
  else match tree.entry? names.dropLast, tree.entry? names with
    | some .directory, some (.file _) | some .directory, none =>
        some { tree with
          entries := tree.entries.insert (absolute names) (.file text) }
    | _, _ => none

end FileTree

/-- A host in memory. -/
structure MemoryHost where
  files : FileTree := {}
  /-- The texts that were written, the latest first. -/
  written : List String := []

namespace MemoryHost

/-- Reply to a request.  Waiting takes no time. -/
def reply : (request : Host.Request) → MemoryHost →
    request.Reply × MemoryHost
  | .pathExists path, host => (host.files.pathExists path, host)
  | .readFile path, host => (host.files.readFile path, host)
  | .createDirectory path, host =>
      match host.files.createDirectory path with
      | some files => (true, { host with files })
      | none => (false, host)
  | .writeFile path text, host =>
      match host.files.writeFile path text with
      | some files => (true, { host with files })
      | none => (false, host)
  | .print text, host => (.ok (), { host with written := text :: host.written })
  | .pause _, host => ((), host)

def run {α : Type} (host : MemoryHost) (task : Task Host.requests α) :
    α × MemoryHost :=
  Task.run (I := Host.requests) reply task host

def output (host : MemoryHost) : String := String.join host.written.reverse

end MemoryHost

end CommandShell
