import CommandShell.Bundle

/-!
# Rules

A command states the rules that its arguments obey.  They are checked in order
before the command runs, and the first one that is broken is reported.
-/

namespace CommandShell

/-- A condition on the arguments of a command. -/
inductive Rule where
  /-- The argument is present. -/
  | require (argument : String)
  /-- The argument, if present, is of a kind. -/
  | typeOf (kind : Kind) (argument : String)
  /-- Both arguments are present or neither is. -/
  | corequire (first second : String)
  deriving DecidableEq, Repr, Inhabited

namespace Rule

def holds (bundle : Bundle) : Rule → Bool
  | .require argument => bundle.hasArgument argument
  | .typeOf kind argument =>
      (bundle.get? argument).all fun value => value.kind == kind
  | .corequire first second =>
      bundle.hasArgument first == bundle.hasArgument second

/-- What the user is told when a rule is broken. -/
def violation : Rule → String
  | .require argument => s!"The {argument} argument must be present."
  | .typeOf kind argument =>
      s!"The {argument} argument is of the wrong type, expected {kind.name}."
  | .corequire first second =>
      s!"The {first} and {second} arguments must both be present."

/-- What `help` says about a rule. -/
def describe : Rule → String
  | .require argument => s!"{argument} is required"
  | .typeOf kind argument => s!"{argument} must be {kind.name}"
  | .corequire first second => s!"{first} and {second} go together"

end Rule

def checkRules (rules : List Rule) (bundle : Bundle) :
    Except ShellError Unit :=
  match rules.find? fun rule => !rule.holds bundle with
  | some rule => .error (.ruleViolation rule.violation)
  | none => .ok ()

end CommandShell
