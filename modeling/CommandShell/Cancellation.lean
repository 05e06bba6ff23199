import CommandShell.Error

/-!
# Cancellation tokens

Every step has a token of its own.  Setting a token asks the step to stop, and
whoever holds the token can see that it is set.  A token is never unset.
-/

namespace CommandShell

/-- The tokens issued so far: for each of them, in order of issue, whether it
is set. -/
structure Tokens where
  flags : List Bool := []
  deriving DecidableEq, Repr, Inhabited

namespace Tokens

def isSet (tokens : Tokens) (token : Nat) : Bool :=
  tokens.flags.getD token false

/-- Issue a token that is not set. -/
def issue (tokens : Tokens) : Nat × Tokens :=
  (tokens.flags.length, ⟨tokens.flags ++ [false]⟩)

def cancel (tokens : Tokens) (token : Nat) : Tokens :=
  ⟨tokens.flags.set token true⟩

/-- Go on unless a token is set. -/
def checkpoint (tokens : Tokens) (token : Nat) : Except ShellError Unit :=
  if tokens.isSet token then .error .cancelled else .ok ()

end Tokens

end CommandShell
