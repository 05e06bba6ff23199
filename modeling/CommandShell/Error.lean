import CommandShell.Value

/-!
# Errors

Every stage of running a line fails with a `ShellError`.  Mistakes in what the
user typed and mistakes in the code of a module are told apart by `fault`.  An
error that leaves a nested call carries the line of that call, so the layers of
`nested` spell out the chain of calls from the outside in.
-/

namespace CommandShell

/-- Who has to mend an error. -/
inductive Fault where
  /-- The user, by typing something else. -/
  | user
  /-- The author of a module. -/
  | internal
  deriving DecidableEq, Repr, Inhabited

/-- The causes for which running a line fails. -/
inductive ShellError where
  | noSuchCommand (name : String)
  | noSuchModule (name : String)
  | ambiguousCommand (command : String) (modules : List String)
  | malformedQualifiedName (name : String)
  | undefinedMacro (name : String)
  | danglingMacroMarker
  | unterminatedQuote
  | unterminatedEscape
  | ruleViolation (violation : String)
  | noPreviousOutput
  | unexpectedToken (token : String)
  | missingAssignment (argument : String)
  | missingValue (argument : String)
  | invalidFlag (flag : String)
  | duplicateArgument (argument : String)
  | macroExists (name : String)
  | noSuchMacro (name : String)
  | badUsage (explanation : String)
  | moduleLoadFailure (explanation : String)
  | cancelled
  | wrongType (expected found : Kind)
  | listType (expected found : Kind)
  | missingArgument (argument : String)
  | duplicateCommand (module command : String)
  | invalidCommandName (name : String)
  | resultTypeMismatch (command : String) (expected found : Kind)
  | callDepthExceeded (limit : Nat)
  | panicked (text : String)
  | other (text : String)
  | nested (line : String) (source : ShellError)
  deriving DecidableEq, Repr, Inhabited

namespace ShellError

def message : ShellError → String
  | noSuchCommand name => s!"The given command \"{name}\" does not exist."
  | noSuchModule name =>
      s!"The given module \"{name}\" does not exist or is not loaded."
  | ambiguousCommand command modules =>
      let owners := ", ".intercalate modules
      s!"Multiple modules have a command named \"{command}\" ({owners}), " ++
        "please specify which one to run as module.command"
  | malformedQualifiedName name =>
      s!"The given string \"{name}\" is not a valid module.command name."
  | undefinedMacro name => s!"Macro does not exist: {name}"
  | danglingMacroMarker => "Macro marker is not followed by a macro name"
  | unterminatedQuote => "No end literal marker found: \""
  | unterminatedEscape => "Found no character to escape after \\"
  | ruleViolation violation => violation
  | noPreviousOutput => "There is no previous output to use"
  | unexpectedToken token => s!"Unexpected token: {token}"
  | missingAssignment argument =>
      s!"Argument {argument} is not followed by the set operator ="
  | missingValue argument => s!"Argument {argument} does not have any content."
  | invalidFlag flag => s!"Invalid flag: {flag}"
  | duplicateArgument argument =>
      s!"Argument {argument} is given more than once"
  | macroExists name => s!"macro {name} already has a definition."
  | noSuchMacro name => s!"{name} macro does not exist"
  | badUsage explanation => explanation
  | moduleLoadFailure explanation => s!"Could not load module: {explanation}"
  | cancelled => "Command was cancelled"
  | wrongType expected found =>
      s!"Code error: cannot convert type {found.name} into type {expected.name}"
  | listType expected found =>
      s!"Code error: list element of type {found.name} is not of type " ++
        expected.name
  | missingArgument argument =>
      s!"Code error: accessed argument {argument} that did not exist: " ++
        "check enforced rules to ensure the argument will be there"
  | duplicateCommand module command =>
      s!"Code error: module {module} defines command {command} twice"
  | invalidCommandName name =>
      s!"Code error: \"{name}\" is not a valid command, module or macro name"
  | resultTypeMismatch command expected found =>
      s!"Code error: command {command} promised a {expected.name} result " ++
        s!"but returned {found.name}"
  | callDepthExceeded limit =>
      s!"Code error: chained calls nested deeper than {limit} levels"
  | panicked text => s!"Code error: command panicked: {text}"
  | other text => text
  | nested line source => s!"Error in call to \"{line}\": {source.message}"

/-- Who has to mend an error; a nested one is judged by its source. -/
def fault : ShellError → Fault
  | wrongType .. | listType .. | missingArgument _ | duplicateCommand ..
  | invalidCommandName _ | resultTypeMismatch .. | callDepthExceeded _
  | panicked _ | other _ => .internal
  | nested _ source => source.fault
  | _ => .user

/-- The innermost error of a chain of nested calls. -/
def rootCause : ShellError → ShellError
  | nested _ source => source.rootCause
  | error => error

def isCancelled (error : ShellError) : Bool :=
  error.rootCause == .cancelled

/-- Whether an error ends its step as if it had never begun: the step was
cancelled, or the error says that its handler panicked. -/
def isAbort : ShellError → Bool
  | panicked _ => true
  | error => error.isCancelled

end ShellError

/-- A sequence of stages succeeds if each of them does. -/
theorem bind_eq_ok_iff {ε α β : Type} {first : Except ε α}
    {next : α → Except ε β} {result : β} :
    (first >>= next) = .ok result ↔
      ∃ value, first = .ok value ∧ next value = .ok result := by
  cases first with
  | error error =>
      constructor
      · intro equal
        cases equal
      · rintro ⟨value, equal, -⟩
        cases equal
  | ok value =>
      constructor
      · intro equal
        exact ⟨value, rfl, equal⟩
      · rintro ⟨_, ⟨⟩, equal⟩
        exact equal

/-- A sequence of stages fails if the first does or, after it, the next. -/
theorem bind_eq_error_iff {ε α β : Type} {first : Except ε α}
    {next : α → Except ε β} {error : ε} :
    (first >>= next) = .error error ↔
      first = .error error ∨ ∃ value, first = .ok value ∧ next value = .error error := by
  cases first with
  | error other =>
      constructor
      · rintro ⟨⟩
        exact .inl rfl
      · rintro (⟨⟨⟩⟩ | ⟨_, ⟨⟩, -⟩)
        rfl
  | ok value =>
      constructor
      · intro fails
        exact .inr ⟨value, rfl, fails⟩
      · rintro (⟨⟨⟩⟩ | ⟨_, ⟨⟩, fails⟩)
        exact fails

theorem map_eq_error_iff {ε α β : Type} {change : α → β} {result : Except ε α} {error : ε} :
    change <$> result = .error error ↔ result = .error error := by
  cases result with
  | error other =>
      constructor
      · rintro ⟨⟩
        rfl
      · rintro ⟨⟩
        rfl
  | ok value =>
      constructor
      · rintro ⟨⟩
      · rintro ⟨⟩

end CommandShell
