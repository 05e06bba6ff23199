import CommandShell.Config
import CommandShell.LogFilter
import CommandShell.Session.Step
import CommandShell.Terminal
import CommandShell.Text.Erasure
import CommandShell.Text.Line

/-!
# The command line

The program reads its options and its configuration, assembles a session, and
then runs either the one line that an option gives or every line of its input
until one of them asks for the exit.
-/

namespace CommandShell
namespace CommandLine

structure Options where
  /-- The configuration file to use. -/
  config : Option String := none
  /-- The log filter to use. -/
  log : Option String := none
  /-- The only line to run. -/
  command : Option String := none
  /-- Whether no libraries are loaded at the start. -/
  noAutoload : Bool := false
  deriving DecidableEq, Repr, Inhabited

/-- What the arguments of the program ask for. -/
inductive Invocation where
  | run (options : Options)
  | help
  /-- They are not understood. -/
  | invalid
  deriving DecidableEq, Repr, Inhabited

/-- Give an option its value; it may have only one. -/
def assign? (current : Option String) (value : String) :
    Option (Option String) :=
  match current with
  | some _ => none
  | none => some (some value)

/-- Set the option that an argument names to the value that follows it. -/
def Options.set? (options : Options) (name value : String) :
    Option Options := do
  match name with
  | "--config" => return { options with config := ← assign? options.config value }
  | "--log" => return { options with log := ← assign? options.log value }
  | "--command" | "-c" =>
      return { options with command := ← assign? options.command value }
  | _ => none

/-- Read arguments.  Once help is asked for, only further requests for help may
follow, and a lone `--` ends the options, after which nothing may follow. -/
def readArguments (options : Options) (help : Bool) :
    List String → Invocation
  | [] => if help then .help else .run options
  | "--help" :: rest | "help" :: rest => readArguments options true rest
  | ["--"] => if help then .help else .run options
  | "--" :: _ => .invalid
  | "--no-autoload" :: rest =>
      if help then .invalid
      else readArguments { options with noAutoload := true } help rest
  | name :: value :: rest =>
      if help then .invalid
      else match options.set? name value with
        | some options => readArguments options help rest
        | none => .invalid
  | [_] => .invalid

/-- What the program leaves to others: the texts of its arguments and files, log
filters, the colors of a terminal, and the keys that correct a line. -/
structure Libraries where
  arguments : List String → Invocation
  config? : String → Option Config
  macros : MacroFormat
  isLogFilter : String → Bool
  painter : Terminal.Painter
  erased : String → String

/-- The readers and writers that come with the shell. -/
def Libraries.standard : Libraries where
  arguments := readArguments {} false
  config? := Config.parse?
  macros := .toml
  isLogFilter := LogFilter.isValid
  painter := Terminal.paint
  erased := Text.erased

def usage : String :=
  String.join (["Usage: wah [--config <config>] [--log <log>] [-c <command>] "
      ++ "[--no-autoload]",
    "",
    "Wah!, an extensible command shell.",
    "",
    "Options:",
    "  --config          config file to use instead of the one in the "
      ++ "platform config",
    "                    directory",
    "  --log             log filter, e.g. \"debug\"",
    "  -c, --command     run a single line and exit, with status 1 if it fails",
    "  --no-autoload     do not load the libraries listed under autoload",
    "  --help, help      display usage information"].map (· ++ "\n"))

/-- What the program finds around it. -/
structure Environment where
  /-- The directory of configuration files, if there is one. -/
  configDirectory : Option String
  /-- Whether the output shows colors. -/
  colored : Bool := false

/-- The configuration file that is used if no option names one. -/
def Environment.configFile? (environment : Environment) : Option String :=
  environment.configDirectory.map fun directory =>
    Path.join (Path.join directory "wah") "config.toml"

/-- A program that is ready to run lines. -/
structure Program where
  session : Session
  colored : Bool
  macroFile : Option String
  /-- What is shown before each line that a user types. -/
  prompt : String
  /-- The only line to run, if there is only one. -/
  command : Option String

/-- Define the macros whose names are free. -/
def defineMacros (session : Session) :
    List (String × String) → Except ShellError Session
  | [] => .ok session
  | (name, body) :: rest =>
      if session.macros.contains name then defineMacros session rest
      else do defineMacros (← session.editMacro name body) rest

/-- Load libraries; one that cannot be loaded is left out. -/
def autoload (session : Session) (libraries : List String) : Session :=
  libraries.foldl (fun session library => (session.loadLibrary library).1)
    session

/-- The macros of a file, if macros are kept in one. -/
def storedMacros (format : MacroFormat) : Option String →
    Task Host.requests (Except MacroFileError (NameMap String))
  | none => pure (.ok ∅)
  | some path => MacroFile.load path format

/-- The session with which the program starts, from a configuration and stored
macros: stored macros come first and those of the configuration where their
names are still free. -/
def assemble (config : Config) (stored : NameMap String) (noAutoload : Bool) :
    Except ShellError Session := do
  let session ← Session.new Builtin.catalog
  let (session, adopted) := session.adoptMacros stored
  adopted
  let session ← defineMacros session config.macros.toList
  return if noAutoload then session else autoload session config.autoload

def configuration (environment : Environment) (options : Options)
    (libraries : Libraries := .standard) :
    Task Host.requests (Except ConfigError Config) :=
  match options.config <|> environment.configFile? with
  | none => pure (.ok {})
  | some path => Config.load path libraries.config?

/-- Start the program.  Without an answer, it ends with the code for failure. -/
def start (environment : Environment) (options : Options)
    (libraries : Libraries := .standard) :
    Task Host.requests (Option Program) := do
  let .ok config ← configuration environment options libraries | return none
  if !options.log.all libraries.isLogFilter then return none
  let .ok stored ← storedMacros libraries.macros config.macroFile | return none
  match assemble config stored options.noAutoload with
  | .error _ => return none
  | .ok session => return some {
      session
      colored := environment.colored
      macroFile := config.macroFile
      prompt := config.prompt
      command := options.command }

/-- Reply to a signal of the session.  Nobody cancels a line here. -/
def reply (program : Program) (libraries : Libraries) :
    (signal : Session.Signal) → Task Host.requests signal.Reply
  | .observe | .await => pure false
  | .pause milliseconds => do
      Host.pause milliseconds
      return false
  | .cancel | .submit _ => pure ()
  | .present item => do
      match ← Host.print
          (Terminal.write program.colored item libraries.painter) with
      | .ok () => return .shown
      | .error reason => return .failed reason
  | .persist name body =>
      match program.macroFile with
      | none => pure (.ok ())
      | some path => do
          match ← MacroFile.persist path name body libraries.macros with
          | .ok () => return .ok ()
          | .error error => return .error error.message

/-- Run a line; the answer is the program afterwards and whether the line ended
without an error. -/
def runLine (program : Program) (line : String)
    (libraries : Libraries := .standard) :
    Task Host.requests (Program × Bool) := do
  let (session, result) ← Task.runM (I := Session.signals)
    (reply program libraries) (Session.run line program.session)
  let succeeded := match result with
    | .ok (.ok _) => true
    | _ => false
  return ({ program with session }, succeeded)

/-- Take a line of input; a blank one is passed over. -/
def enter (program : Program) (line : String)
    (libraries : Libraries := .standard) :
    Task Host.requests Program := do
  let line := libraries.erased line
  if isBlankText line then return program
  let (program, _) ← runLine program line libraries
  return program

/-- Take lines of input until one asks for the exit. -/
def enterAll (program : Program) (libraries : Libraries) :
    List String → Task Host.requests Program
  | [] => pure program
  | line :: rest => do
      let program ← enter program line libraries
      if program.session.exitRequested then return program
      enterAll program libraries rest

abbrev ExitCode := Nat

/-- Run the program on its arguments and its whole input. -/
def run (environment : Environment) (arguments : List String)
    (input : String) (libraries : Libraries := .standard) :
    Task Host.requests ExitCode := do
  match libraries.arguments arguments with
  | .invalid => return 1
  | .help =>
      let _ ← Host.print usage
      return 0
  | .run options =>
      let some program ← start environment options libraries | return 1
      match program.command with
      | some line =>
          let (_, succeeded) ← runLine program line libraries
          return if succeeded then 0 else 1
      | none =>
          let _ ← enterAll program libraries (Text.lines input)
          return 0

end CommandLine
end CommandShell
