import CommandShell.CommandLine

/-!
# The program

The outermost layer: it replies to requests with effects of the operating
system and takes lines of input as they come.
-/

namespace CommandShell
namespace Main

def readFile (path : String) : IO (Except ReadFailure String) := do
  try
    let bytes ← IO.FS.readBinFile path
    match String.fromUTF8? bytes with
    | some text => return .ok text
    | none => return .error .unreadable
  catch
    | .noFileOrDirectory .. => return .error .notFound
    | _ => return .error .unreadable

def succeeds (action : IO Unit) : IO Bool := do
  try
    action
    return true
  catch _ => return false

def print (text : String) : IO (Except String Unit) := do
  try
    let output ← IO.getStdout
    output.putStr text
    output.flush
    return .ok ()
  catch failure => return .error failure.toString

/-- Reply to a request of the shell. -/
def reply : (request : Host.Request) → IO request.Reply
  | .pathExists path => succeeds do
      let _ ← IO.FS.realPath path
  | .readFile path => readFile path
  | .createDirectory path => succeeds (IO.FS.createDirAll path)
  | .writeFile path text => succeeds (IO.FS.writeFile path text)
  | .print text => print text
  | .pause milliseconds => IO.sleep milliseconds.toUInt32

/-- Run a task on the operating system. -/
def perform {α : Type} (task : Task Host.requests α) : IO α :=
  Task.runM (I := Host.requests) reply task

/-- Take lines of input until there are no more or one asks for the exit.  A
user who types is shown a prompt. -/
partial def takeLines (input : IO.FS.Stream)
    (program : CommandLine.Program) : IO Unit := do
  if ← input.isTty then
    let _ ← print (program.prompt ++ " ")
  let line ← input.getLine
  if line.isEmpty then return
  match Text.lines line with
  | [line] =>
      let program ← perform (CommandLine.enter program line)
      if program.session.exitRequested then return
      takeLines input program
  | _ => takeLines input program

def configDirectory : IO (Option String) := do
  match ← IO.getEnv "XDG_CONFIG_HOME" with
  | some directory =>
      if Path.isAbsolute directory then return some directory
  | none => pure ()
  return (← IO.getEnv "HOME").map fun home => Path.join home ".config"

def run (arguments : List String) : IO UInt32 := do
  match CommandLine.Libraries.standard.arguments arguments with
  | .invalid => return 1
  | .help =>
      let _ ← print CommandLine.usage
      return 0
  | .run options =>
      let environment : CommandLine.Environment := {
        configDirectory := ← configDirectory
        colored := ← (← IO.getStdout).isTty }
      let some program ←
        perform (CommandLine.start environment options) | return 1
      match program.command with
      | some line =>
          let (_, succeeded) ← perform (CommandLine.runLine program line)
          return if succeeded then 0 else 1
      | none =>
          takeLines (← IO.getStdin) program
          return 0

end Main
end CommandShell

/-- Run the program on its arguments. -/
def main (arguments : List String) : IO UInt32 :=
  CommandShell.Main.run arguments
