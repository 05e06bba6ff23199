import CommandShell.NameMap
import CommandShell.Value.Access

/-!
# Bundles

A bundle holds the flags and the arguments of one invocation of a command.
Flags are a set, arguments keep the order in which they were typed.
-/

namespace CommandShell

/-- The flags and arguments of an invocation. -/
structure Bundle where
  flags : NameSet := ∅
  arguments : List (String × Value) := []
  deriving Inhabited

namespace Bundle

def hasFlag (bundle : Bundle) (flag : String) : Bool :=
  bundle.flags.contains flag

/-- The value of the first argument of a name. -/
def get? (bundle : Bundle) (name : String) : Option Value :=
  (bundle.arguments.find? fun argument => argument.1 == name).map (·.2)

def hasArgument (bundle : Bundle) (name : String) : Bool :=
  bundle.arguments.any fun argument => argument.1 == name

/-- The value of an argument that the rules of the command ensure. -/
def argument (bundle : Bundle) (name : String) : Except ShellError Value :=
  match bundle.get? name with
  | some value => .ok value
  | none => .error (.missingArgument name)

def text (bundle : Bundle) (name : String) : Except ShellError String :=
  bundle.argument name >>= Value.asText

def integer (bundle : Bundle) (name : String) : Except ShellError Int64 :=
  bundle.argument name >>= Value.asInteger

def image (bundle : Bundle) (name : String) : Except ShellError Image :=
  bundle.argument name >>= Value.asImage

def list (bundle : Bundle) (name : String) : Except ShellError (List Value) :=
  bundle.argument name >>= Value.asList

def isEmpty (bundle : Bundle) : Bool :=
  bundle.flags.isEmpty && bundle.arguments.isEmpty

end Bundle

end CommandShell
