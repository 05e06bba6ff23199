import CommandShell.Task

/-!
# The host

The host is what the shell runs on: it has files, and it takes text that is
written to it.  Everything the shell does there is a task over these requests.
-/

namespace CommandShell

/-- Why a file cannot be read. -/
inductive ReadFailure where
  /-- Nothing has that path. -/
  | notFound
  /-- What is there cannot be read as text, or the path leads through a
  file. -/
  | unreadable
  deriving DecidableEq, Repr, Inhabited

namespace Host

/-- What can be asked of a host. -/
inductive Request where
  /-- Whether there is something at a path. -/
  | pathExists (path : String)
  /-- The text of a file. -/
  | readFile (path : String)
  /-- Create a directory and all around it that are missing; the reply is
  whether the directory is there now. -/
  | createDirectory (path : String)
  /-- Write a file anew; the reply is whether it was written. -/
  | writeFile (path text : String)
  /-- Write text to the output; the reply tells what went wrong. -/
  | print (text : String)
  /-- Wait. -/
  | pause (milliseconds : Nat)
  deriving Repr

def Request.Reply : Request → Type
  | .pathExists _ => Bool
  | .readFile _ => Except ReadFailure String
  | .createDirectory _ | .writeFile .. => Bool
  | .print _ => Except String Unit
  | .pause _ => Unit

def requests : Interface := ⟨Request, Request.Reply⟩

def ask (request : Request) : Task requests request.Reply :=
  Task.perform (I := requests) request

def pathExists (path : String) : Task requests Bool :=
  ask (.pathExists path)

def readFile (path : String) : Task requests (Except ReadFailure String) :=
  ask (.readFile path)

/-- Create a directory and all around it that are missing. -/
def createDirectory (path : String) : Task requests Bool :=
  ask (.createDirectory path)

def writeFile (path text : String) : Task requests Bool :=
  ask (.writeFile path text)

def print (text : String) : Task requests (Except String Unit) :=
  ask (.print text)

def pause (milliseconds : Nat) : Task requests Unit :=
  ask (.pause milliseconds)

end Host

end CommandShell
