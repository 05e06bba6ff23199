import CommandShell.Bundle
import CommandShell.Token

/-!
# From tokens to a bundle

The tokens behind a command name are a sequence of items:

    item   := flag | keyed
    flag   := '-' '-'? word
    keyed  := word '=' value (',' value)*
    value  := '^' | '-'? word ('.' word)*

Every step below takes tokens off the front and returns the rest together with
a proof that tokens were taken, so reading a bundle ends.
-/

namespace CommandShell
namespace Bundle

open Token

/-- What a reader took off the front of `tokens`, and the shorter rest. -/
abbrev Taken (α : Type) (tokens : List Token) :=
  α × { rest : List Token // rest.length < tokens.length }

/-- Join the words that follow, each behind a dot, to the text of a value. -/
def joinDotted (text : String) :
    (tokens : List Token) →
      String × { rest : List Token // rest.length ≤ tokens.length }
  | .moduleDelimiter :: .word part :: rest =>
      let (joined, rest) := joinDotted (text ++ "." ++ part) rest
      (joined, ⟨rest.1, Nat.le_succ_of_le (Nat.le_succ_of_le rest.2)⟩)
  | tokens => (text, ⟨tokens, Nat.le_refl _⟩)

/-- Read one value of the argument `name`.  A `^` stands for the previous
output as it is; everything else is raw text. -/
def readValue (previous : Option Value) (name : String) :
    (tokens : List Token) → Except ShellError (Taken Value tokens)
  | .previousOutput :: rest =>
      match previous with
      | some value => .ok (value, ⟨rest, Nat.lt_succ_self _⟩)
      | none => .error .noPreviousOutput
  | .word text :: rest =>
      let (raw, rest) := joinDotted text rest
      .ok (.ofRaw raw, ⟨rest.1, Nat.lt_succ_of_le rest.2⟩)
  | .flagMarker :: .word text :: rest =>
      let (raw, rest) := joinDotted ("-" ++ text) rest
      .ok (.ofRaw raw, ⟨rest.1, Nat.lt_succ_of_lt (Nat.lt_succ_of_le rest.2)⟩)
  | _ => .error (.missingValue name)

/-- Read the values that follow, each behind a comma. -/
def readMoreValues (previous : Option Value) (name : String) :
    (tokens : List Token) →
      Except ShellError
        (List Value × { rest : List Token // rest.length ≤ tokens.length })
  | .separator :: tokens => do
      let (value, rest) ← readValue previous name tokens
      have := rest.2
      let (values, rest') ← readMoreValues previous name rest.1
      return (value :: values,
        ⟨rest'.1, Nat.le_succ_of_le (Nat.le_trans rest'.2 (Nat.le_of_lt rest.2))⟩)
  | tokens => .ok ([], ⟨tokens, Nat.le_refl _⟩)
termination_by tokens => tokens.length
decreasing_by simp only [List.length_cons]; omega

/-- Read the values of an argument: one value stands for itself, two or more
for a list. -/
def readValues (previous : Option Value) (name : String)
    (tokens : List Token) : Except ShellError (Taken Value tokens) := do
  let (first, rest) ← readValue previous name tokens
  let (more, rest') ← readMoreValues previous name rest.1
  let value := if more.isEmpty then first else .list (first :: more)
  return (value, ⟨rest'.1, Nat.lt_of_le_of_lt rest'.2 rest.2⟩)

/-- Read the word of a flag, behind the dash that starts it. -/
def readFlag : (tokens : List Token) → Except ShellError (Taken String tokens)
  | .flagMarker :: tokens =>
      match tokens with
      | [] => .error (.invalidFlag "-")
      | .word flag :: rest =>
          named flag rest (Nat.lt_succ_of_lt (Nat.lt_succ_self _))
      | token :: _ => .error (.invalidFlag ("-" ++ token.text))
  | [] => .error (.invalidFlag "-")
  | .word flag :: rest => named flag rest (Nat.lt_succ_self _)
  | token :: _ => .error (.invalidFlag ("-" ++ token.text))
where
  /-- Accept the word of a flag unless it is empty. -/
  named {tokens : List Token} (flag : String) (rest : List Token)
      (shorter : rest.length < tokens.length) :
      Except ShellError (Taken String tokens) :=
    if flag.isEmpty then .error (.invalidFlag ("-" ++ flag))
    else .ok (flag, ⟨rest, shorter⟩)

/-- Read items until no tokens are left, adding them to a bundle. -/
def readItems (previous : Option Value) (bundle : Bundle) :
    List Token → Except ShellError Bundle
  | [] => .ok bundle
  | .flagMarker :: tokens => do
      let (flag, rest) ← readFlag tokens
      have := rest.2
      readItems previous { bundle with flags := bundle.flags.insert flag () }
        rest.1
  | .word name :: .assign :: tokens => do
      let (value, rest) ← readValues previous name tokens
      have := rest.2
      if bundle.hasArgument name then
        .error (.duplicateArgument name)
      else
        readItems previous
          { bundle with arguments := bundle.arguments ++ [(name, value)] }
          rest.1
  | .word name :: _ => .error (.missingAssignment name)
  | token :: _ => .error (.unexpectedToken token.text)
termination_by tokens => tokens.length
decreasing_by all_goals simp only [List.length_cons]; omega

/-- The bundle that the tokens behind a command name describe.  `previous` is
the output of the last command. -/
def ofTokens (previous : Option Value) (tokens : List Token) :
    Except ShellError Bundle :=
  readItems previous {} tokens

end Bundle
end CommandShell
