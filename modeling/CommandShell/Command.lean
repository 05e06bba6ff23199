import CommandShell.MacroTable
import CommandShell.Rule
import CommandShell.Task

/-!
# Commands

A command is a signature, which the shell reads, and a handler, which it runs.
A handler is a task: it asks the shell for everything it does beyond computing
a value, and it sees only first-order views of what the shell keeps.  It ends
with a value or stops early with a failure.
-/

namespace CommandShell

/-- How a handler stops before it has a value. -/
inductive Failure where
  /-- With an error, which a handler that called it may catch. -/
  | error (error : ShellError)
  /-- With a panic, which ends the whole step.  It may have no text. -/
  | panic (text : Option String)
  deriving DecidableEq, Repr, Inhabited

/-- What the shell knows about a command before running it. -/
structure Signature where
  name : String
  /-- One line for `help`. -/
  description : String := ""
  /-- The rules that a bundle obeys before the handler sees it. -/
  rules : List Rule := []
  /-- The kind of the value that the handler promises, if it promises one. -/
  returns : Option Kind := none
  deriving Repr, Inhabited

/-- What a handler can learn about a module. -/
structure ModuleInfo where
  name : String
  version : String
  color : Color
  /-- The commands in ascending name order. -/
  commands : List Signature
  deriving Repr, Inhabited

namespace Handler

/-- What a handler can ask of the shell that runs it. -/
inductive Request where
  /-- Define a macro that is not defined yet. -/
  | addMacro (name body : String)
  /-- Define a macro, whether it was defined before or not. -/
  | editMacro (name body : String)
  /-- Remove a macro and learn the body it had. -/
  | deleteMacro (name : String)
  /-- Put another table in the place of the macros.  Its names are not
  checked. -/
  | setMacros (macros : MacroTable)
  /-- List all macros. -/
  | listMacros
  /-- List the loaded modules. -/
  | listModules
  /-- Load all modules of a library. -/
  | loadLibrary (library : String)
  /-- Load one module of a library. -/
  | loadModule (library name : String)
  /-- Unload a module. -/
  | unloadModule (name : String)
  /-- Create a blank image. -/
  | blankImage (width height : Nat)
  /-- Show a value right away. -/
  | print (value : Value)
  /-- Run another line and learn its value. -/
  | call (line : String)
  /-- Ask the shell to exit once the step has ended well. -/
  | requestExit
  /-- Stop here if the step has been cancelled. -/
  | checkpoint
  /-- Wait, unless the step is cancelled before the time is over. -/
  | sleep (milliseconds : Nat)
  /-- Cancel the step that runs this handler. -/
  | cancelStep
  /-- Hand a line to the dispatcher that runs this step. -/
  | submitLine (line : String)
  /-- Wait for a release from outside, unless the step is cancelled first. -/
  | awaitRelease
  deriving Repr

/-- The type of the reply to each request. -/
def Request.Reply : Request → Type
  | .addMacro .. | .editMacro .. => Except ShellError Unit
  | .deleteMacro _ => Except ShellError String
  | .setMacros _ => Unit
  | .listMacros => List (String × String)
  | .listModules => List ModuleInfo
  | .loadLibrary _ => Except ShellError (List String)
  | .loadModule .. | .unloadModule _ => Except ShellError Unit
  | .blankImage .. => Except ShellError Image
  | .print _ => Except ShellError Unit
  | .call _ => Except ShellError Value
  | .requestExit => Unit
  | .checkpoint | .sleep _ | .awaitRelease => Except ShellError Unit
  | .cancelStep | .submitLine _ => Unit

def requests : Interface := ⟨Request, Request.Reply⟩

end Handler

/-- A computation of a handler: it makes requests and may stop early. -/
abbrev Handler (α : Type) := ExceptT Failure (Task Handler.requests) α

namespace Handler

variable {α : Type}

def ask (request : Request) : Handler request.Reply :=
  ExceptT.lift (m := Task requests) (Task.perform (I := requests) request)

/-- Go on with a result, or stop with its error. -/
def ofExcept : Except ShellError α → Handler α
  | .ok value => pure value
  | .error error => throw (.error error)

def fail (error : ShellError) : Handler α := throw (.error error)

/-- Stop with a panic, which may have no text. -/
def panic (text : Option String) : Handler α := throw (.panic text)

/-- Go on after an error as `recover` says; a panic is not caught. -/
def catchError (handler : Handler α) (recover : ShellError → Handler α) :
    Handler α :=
  tryCatch handler fun
    | .error error => recover error
    | .panic text => panic text

def addMacro (name body : String) : Handler Unit := do
  ofExcept (← ask (.addMacro name body))

/-- Define a macro, whether it was defined before or not. -/
def editMacro (name body : String) : Handler Unit := do
  ofExcept (← ask (.editMacro name body))

def deleteMacro (name : String) : Handler String := do
  ofExcept (← ask (.deleteMacro name))

/-- Put another table in the place of the macros. -/
def setMacros (macros : MacroTable) : Handler Unit := ask (.setMacros macros)

def macros : Handler (List (String × String)) := ask .listMacros

def modules : Handler (List ModuleInfo) := ask .listModules

/-- Load all modules of a library and yield their names. -/
def loadLibrary (library : String) : Handler (List String) := do
  ofExcept (← ask (.loadLibrary library))

def loadModule (library name : String) : Handler Unit := do
  ofExcept (← ask (.loadModule library name))

def unloadModule (name : String) : Handler Unit := do
  ofExcept (← ask (.unloadModule name))

def blankImage (width height : Nat) : Handler Image := do
  ofExcept (← ask (.blankImage width height))

/-- Show a value right away. -/
def print (value : Value) : Handler Unit := do
  ofExcept (← ask (.print value))

/-- Run another line and yield its value; an error comes back as an error of
that call. -/
def call (line : String) : Handler Value := do
  ofExcept (← ask (.call line))

/-- Run another line whose value has to be of a kind. -/
def callExpecting (line : String) (kind : Kind) : Handler Value := do
  let value ← call line
  match value.expectKind kind with
  | .ok value => pure value
  | .error error => fail (.nested line error)

/-- Ask the shell to exit once the step has ended well. -/
def requestExit : Handler Unit := ask .requestExit

/-- Stop here if the step has been cancelled. -/
def checkpoint : Handler Unit := do
  ofExcept (← ask .checkpoint)

/-- Wait, or stop early if the step is cancelled. -/
def sleep (milliseconds : Nat) : Handler Unit := do
  ofExcept (← ask (.sleep milliseconds))

def cancelStep : Handler Unit := ask .cancelStep

/-- Hand a line to the dispatcher that runs this step. -/
def submitLine (line : String) : Handler Unit := ask (.submitLine line)

/-- Wait for a release from outside, or stop if the step is cancelled. -/
def awaitRelease : Handler Unit := do
  ofExcept (← ask .awaitRelease)

end Handler

/-- A command: what the shell knows about it and what it does. -/
structure Command extends Signature where
  /-- The handler, given the module that owns the command and the bundle. -/
  handler : ModuleInfo → Bundle → Handler Value

namespace Command

/-- Whether a value is of the kind that the command promises. -/
def allows (command : Command) (value : Value) : Bool :=
  command.returns.all fun kind => value.kind == kind

end Command

end CommandShell
