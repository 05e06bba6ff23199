import CommandShell.Proofs.Line.Expansion
import CommandShell.Proofs.Line.Names
import CommandShell.Session.Evaluate

/-!
# The stages of reading a line

A line is split into tokens, its macros are expanded, the name is split off, the command
is resolved, a bundle is built of the rest, and the rules of the command are checked.
`failure?` says of each stage by itself with which error it fails, also behind a stage
that has failed, provided that it has something to work on.  Reading reports the error of
the earliest stage that fails.
-/

namespace CommandShell

/-- The error of a result. -/
def errorOf? {α : Type} : Except ShellError α → Option ShellError
  | .error error => some error
  | .ok _ => none

namespace Session

/-- The stages of reading a line. -/
inductive Phase where
  | tokenizing
  | expanding
  | splitting
  | resolving
  | building
  | checking
  deriving DecidableEq, Repr

/-- The stages in the order in which a line goes through them. -/
def Phase.order : List Phase :=
  [.tokenizing, .expanding, .splitting, .resolving, .building, .checking]

/-- The tokens of a line after the expansion of its macros. -/
def tokensOf (session : Session) (line : String) : Except ShellError (List Token) := do
  let typed ← tokenize line
  session.macros.expand typed

/-- The name at the head of a line that is not blank, and the tokens behind it. -/
def headOf? (session : Session) (line : String) : Option (CommandName × List Token) := do
  let tokens ← (session.tokensOf line).toOption
  if tokens.isEmpty then none else (CommandName.split tokens).toOption

/-- The error with which a stage of reading a line fails, if it fails.  A stage works on
the results of those that it needs, and without them it does not fail. -/
def failure? (session : Session) (line : String) : Phase → Option ShellError
  | .tokenizing => errorOf? (tokenize line)
  | .expanding => do
      let typed ← (tokenize line).toOption
      errorOf? (session.macros.expand typed)
  | .splitting => do
      let tokens ← (session.tokensOf line).toOption
      if tokens.isEmpty then none else errorOf? (CommandName.split tokens)
  | .resolving => do
      let (name, _) ← session.headOf? line
      errorOf? (session.registry.resolve name)
  | .building => do
      let (_, rest) ← session.headOf? line
      errorOf? (Bundle.ofTokens session.previous rest)
  | .checking => do
      let (name, rest) ← session.headOf? line
      let (_, command) ← (session.registry.resolve name).toOption
      let bundle ← (Bundle.ofTokens session.previous rest).toOption
      errorOf? (checkRules command.rules bundle)

variable {session : Session} {line : String} {error : ShellError}

/-- Reading a line fails exactly if one of its stages fails, and the error is that of the
earliest one. -/
theorem read_eq_error_iff : session.read line = .error error ↔
    Phase.order.findSome? (session.failure? line) = some error := by
  simp only [Phase.order, List.findSome?_cons, List.findSome?_nil, failure?, headOf?,
    tokensOf, read]
  -- one stage after the other: if it fails, nothing behind it counts any more
  cases tokenize line with
  | error error => simp [errorOf?, bind, Except.bind]
  | ok typed =>
      simp only [errorOf?, bind, Except.bind, Except.toOption, Option.bind]
      cases session.macros.expand typed with
      | error error => simp
      | ok tokens =>
          cases tokens with
          | nil => simp [pure, Except.pure]
          | cons first others =>
              simp only [List.isEmpty_cons, Bool.false_eq_true, if_false]
              cases CommandName.split (first :: others) with
              | error error => simp
              | ok head =>
                  dsimp only
                  cases session.registry.resolve head.1 with
                  | error error => simp
                  | ok found =>
                      cases Bundle.ofTokens session.previous head.2 with
                      | error error => simp
                      | ok bundle =>
                          dsimp only
                          cases checkRules found.2.rules bundle <;> simp [pure, Except.pure]

section Errors

/-- The errors with which a stage of reading can fail. -/
def Phase.raises : Phase → ShellError → Bool
  | .tokenizing, .unterminatedQuote | .tokenizing, .unterminatedEscape => true
  | .expanding, .unterminatedQuote | .expanding, .unterminatedEscape => true
  | .expanding, .undefinedMacro _ | .expanding, .danglingMacroMarker => true
  | .splitting, .unexpectedToken _ | .splitting, .malformedQualifiedName _ => true
  | .resolving, .noSuchModule _ | .resolving, .noSuchCommand _ => true
  | .resolving, .ambiguousCommand .. => true
  | .building, .noPreviousOutput | .building, .unexpectedToken _ => true
  | .building, .missingAssignment _ | .building, .missingValue _ => true
  | .building, .invalidFlag _ | .building, .duplicateArgument _ => true
  | .checking, .ruleViolation _ => true
  | _, _ => false

theorem raises_of_tokenize (fails : tokenize line = .error error) :
    Phase.tokenizing.raises error = true := by
  cases lexical_of_tokenize fails with
  | escape => rfl
  | quote => rfl

theorem raises_of_expand {table : MacroTable} {tokens : List Token}
    (fails : table.expand tokens = .error error) : Phase.expanding.raises error = true := by
  obtain ⟨pieces, reading⟩ := Reading.exists_reading tokens
  have expands := reading.expandsByPieces table
  rcases expands.noOther error fails with rfl | ⟨name, rfl⟩ | lexical
  · rfl
  · rfl
  · cases lexical with
    | escape => rfl
    | quote => rfl

theorem raises_of_ofParts {parts : List String}
    (fails : CommandName.ofParts parts = .error error) : Phase.splitting.raises error = true := by
  unfold CommandName.ofParts at fails
  split at fails
  · cases fails
  · split at fails <;> cases fails
    rfl
  · cases fails
    rfl

theorem raises_of_split {tokens : List Token} (fails : CommandName.split tokens = .error error) :
    Phase.splitting.raises error = true := by
  unfold CommandName.split at fails
  dsimp only at fails
  split at fails
  case h_4 =>
    cases fails
    rfl
  all_goals
    rcases bind_eq_error_iff.1 fails with fails | ⟨_, -, ⟨⟩⟩
    exact raises_of_ofParts fails

theorem raises_of_resolve {registry : Registry} {name : CommandName}
    (fails : registry.resolve name = .error error) : Phase.resolving.raises error = true := by
  unfold Registry.resolve at fails
  repeat' split at fails
  all_goals cases fails <;> rfl

theorem raises_of_checkRules {rules : List Rule} {bundle : Bundle}
    (fails : checkRules rules bundle = .error error) : Phase.checking.raises error = true := by
  unfold checkRules at fails
  split at fails <;> cases fails
  rfl

section Building

open CommandShell.Bundle

variable {previous : Option Value} {name : String} {tokens : List Token}

theorem raises_of_named {flag : String} {rest : List Token} {shorter : rest.length < tokens.length}
    (fails : readFlag.named flag rest shorter = .error error) :
    Phase.building.raises error = true := by
  unfold readFlag.named at fails
  split at fails <;> cases fails
  rfl

theorem raises_of_readFlag (fails : readFlag tokens = .error error) :
    Phase.building.raises error = true := by
  unfold readFlag at fails
  split at fails
  · split at fails
    · cases fails
      rfl
    · exact raises_of_named fails
    · cases fails
      rfl
  · cases fails
    rfl
  · exact raises_of_named fails
  · cases fails
    rfl

theorem raises_of_readValue (fails : readValue previous name tokens = .error error) :
    Phase.building.raises error = true := by
  unfold readValue at fails
  split at fails
  · split at fails <;> cases fails
    rfl
  · cases fails
  · cases fails
  · cases fails
    rfl

theorem raises_of_readMoreValues (fails : readMoreValues previous name tokens = .error error) :
    Phase.building.raises error = true := by
  fun_induction readMoreValues previous name tokens with
  | case1 tokens ih =>
      rcases bind_eq_error_iff.1 fails with fails | ⟨⟨_, rest⟩, -, fails⟩
      · exact raises_of_readValue fails
      · rcases bind_eq_error_iff.1 fails with fails | ⟨_, -, ⟨⟩⟩
        exact ih rest fails
  | case2 => cases fails

theorem raises_of_readValues (fails : readValues previous name tokens = .error error) :
    Phase.building.raises error = true := by
  rcases bind_eq_error_iff.1 fails with fails | ⟨_, -, fails⟩
  · exact raises_of_readValue fails
  · rcases bind_eq_error_iff.1 fails with fails | ⟨_, -, ⟨⟩⟩
    exact raises_of_readMoreValues fails

theorem raises_of_readItems {bundle : Bundle}
    (fails : readItems previous bundle tokens = .error error) :
    Phase.building.raises error = true := by
  fun_induction readItems previous bundle tokens with
  | case1 => cases fails
  | case2 bundle tokens ih =>
      rcases bind_eq_error_iff.1 fails with fails | ⟨⟨flag, rest⟩, -, fails⟩
      · exact raises_of_readFlag fails
      · exact ih flag rest fails
  | case3 bundle name tokens ih =>
      rcases bind_eq_error_iff.1 fails with fails | ⟨⟨value, rest⟩, -, fails⟩
      · exact raises_of_readValues fails
      · dsimp only at fails
        split at fails
        · cases fails
          rfl
        · next unused => exact ih value rest fails
  | case4 =>
      cases fails
      rfl
  | case5 =>
      cases fails
      rfl

end Building

theorem errorOf?_eq_some_iff {α : Type} {result : Except ShellError α} :
    errorOf? result = some error ↔ result = .error error := by
  cases result <;> simp [errorOf?]

/-- Every stage fails with errors of its own. -/
theorem raises_of_failure? {phase : Phase} (fails : session.failure? line phase = some error) :
    phase.raises error = true := by
  cases phase with
  | tokenizing => exact raises_of_tokenize (errorOf?_eq_some_iff.1 fails)
  | expanding =>
      obtain ⟨typed, -, fails⟩ := Option.bind_eq_some_iff.1 fails
      exact raises_of_expand (errorOf?_eq_some_iff.1 fails)
  | splitting =>
      obtain ⟨tokens, -, fails⟩ := Option.bind_eq_some_iff.1 fails
      split at fails
      · cases fails
      · exact raises_of_split (errorOf?_eq_some_iff.1 fails)
  | resolving =>
      obtain ⟨head, -, fails⟩ := Option.bind_eq_some_iff.1 fails
      exact raises_of_resolve (errorOf?_eq_some_iff.1 fails)
  | building =>
      obtain ⟨head, -, fails⟩ := Option.bind_eq_some_iff.1 fails
      exact raises_of_readItems (errorOf?_eq_some_iff.1 fails)
  | checking =>
      obtain ⟨head, -, fails⟩ := Option.bind_eq_some_iff.1 fails
      obtain ⟨found, -, fails⟩ := Option.bind_eq_some_iff.1 fails
      obtain ⟨bundle, -, fails⟩ := Option.bind_eq_some_iff.1 fails
      exact raises_of_checkRules (errorOf?_eq_some_iff.1 fails)

/-- No stage of reading a line ends its step as if it had never begun. -/
theorem isAbort_of_read (fails : session.read line = .error error) : error.isAbort = false := by
  obtain ⟨phase, -, fails⟩ := List.exists_of_findSome?_eq_some (read_eq_error_iff.1 fails)
  have raises := raises_of_failure? fails
  cases error <;> first | rfl | cases phase <;> cases raises

end Errors

section Success

variable {invocation : Invocation}

theorem toOption_eq_some_iff {α : Type} {result : Except ShellError α} {value : α} :
    result.toOption = some value ↔ result = .ok value := by
  cases result <;> simp [Except.toOption]

theorem headOf?_eq_some_iff {name : CommandName} {rest : List Token} :
    session.headOf? line = some (name, rest) ↔ ∃ tokens, session.tokensOf line = .ok tokens ∧
      tokens.isEmpty = false ∧ CommandName.split tokens = .ok (name, rest) := by
  unfold headOf?
  simp only [bind, Option.bind_eq_some_iff, toOption_eq_some_iff]
  refine exists_congr fun tokens => and_congr_right fun _ => ?_
  cases tokens.isEmpty <;> simp [toOption_eq_some_iff]

/-- A line that is read as an invocation has passed all stages. -/
theorem read_eq_ok_some_iff : session.read line = .ok (some invocation) ↔
    ∃ name rest, session.headOf? line = some (name, rest) ∧
      session.registry.resolve name = .ok (invocation.owner, invocation.command) ∧
      Bundle.ofTokens session.previous rest = .ok invocation.bundle ∧
      checkRules invocation.command.rules invocation.bundle = .ok () := by
  simp only [headOf?_eq_some_iff]
  constructor
  · intro reads
    obtain ⟨typed, tokenized, reads⟩ := bind_eq_ok_iff.1 reads
    obtain ⟨tokens, expanded, reads⟩ := bind_eq_ok_iff.1 reads
    split at reads
    · cases reads
    · next nonempty =>
        obtain ⟨⟨name, rest⟩, headed, reads⟩ := bind_eq_ok_iff.1 reads
        obtain ⟨⟨owner, command⟩, resolved, reads⟩ := bind_eq_ok_iff.1 reads
        obtain ⟨bundle, built, reads⟩ := bind_eq_ok_iff.1 reads
        obtain ⟨⟨⟩, obeyed, ⟨⟩⟩ := bind_eq_ok_iff.1 reads
        exact ⟨name, rest, ⟨tokens, bind_eq_ok_iff.2 ⟨typed, tokenized, expanded⟩,
          Bool.eq_false_iff.2 nonempty, headed⟩, resolved, built, obeyed⟩
  · rintro ⟨name, rest, ⟨tokens, tokensEq, nonempty, headed⟩, resolved, built, obeyed⟩
    obtain ⟨typed, tokenized, expanded⟩ := bind_eq_ok_iff.1 tokensEq
    refine bind_eq_ok_iff.2 ⟨typed, tokenized, bind_eq_ok_iff.2 ⟨tokens, expanded, ?_⟩⟩
    rw [if_neg (Bool.eq_false_iff.1 nonempty)]
    refine bind_eq_ok_iff.2 ⟨_, headed, bind_eq_ok_iff.2 ⟨_, resolved, ?_⟩⟩
    exact bind_eq_ok_iff.2 ⟨_, built, bind_eq_ok_iff.2 ⟨_, obeyed, rfl⟩⟩

theorem checkRules_eq_ok_iff {rules : List Rule} {bundle : Bundle} :
    checkRules rules bundle = .ok () ↔ ∀ rule ∈ rules, rule.holds bundle = true := by
  have noneBroken : (rules.find? fun rule => !rule.holds bundle) = none ↔
      ∀ rule ∈ rules, rule.holds bundle = true := by simp
  rw [← noneBroken]
  unfold checkRules
  cases rules.find? fun rule => !rule.holds bundle <;> simp

end Success

section Items

open CommandShell.Bundle (ItemForm ValueForm)

theorem macroMarker_not_mem_value (form : ValueForm) : .macroMarker ∉ form.tokens := by
  have notDotted (parts : List String) : .macroMarker ∉ Bundle.dotted parts := by
    simp [Bundle.dotted]
  cases form with
  | previous => simp [ValueForm.tokens]
  | raw negative first more => cases negative <;> simp [ValueForm.tokens, notDotted]

theorem macroMarker_not_mem_item (item : ItemForm) : .macroMarker ∉ item.tokens := by
  cases item with
  | flag doubled name => cases doubled <;> simp [ItemForm.tokens]
  | keyed name first more =>
      simp [ItemForm.tokens, Bundle.separated, macroMarker_not_mem_value]

/-- A line of the name of a command and items is read as the invocation of that command
with the bundle that the items make, if the name resolves and the rules admit it. -/
theorem read_items {name : CommandName} (items : List ItemForm) {bundle : Bundle}
    (tokenized : tokenize line = .ok (name.tokens ++ items.flatMap ItemForm.tokens))
    (wellFormed : name.WellFormed)
    (adds : items.foldlM (ItemForm.add? session.previous) {} = some bundle) :
    session.read line = (do
      let (owner, command) ← session.registry.resolve name
      checkRules command.rules bundle
      return some { owner, command, bundle }) := by
  have unmarked : .macroMarker ∉ name.tokens ++ items.flatMap ItemForm.tokens := by
    rw [List.mem_append, List.mem_flatMap, not_or]
    constructor
    · cases name <;> simp [CommandName.tokens]
    · rintro ⟨item, -, member⟩
      exact macroMarker_not_mem_item item member
  have nonempty : (name.tokens ++ items.flatMap ItemForm.tokens).isEmpty = false := by
    cases name <;> rfl
  have headed := CommandName.split_tokens wellFormed (Bundle.head?_items items).1
  have built : Bundle.ofTokens session.previous (items.flatMap ItemForm.tokens) =
      .ok bundle := Bundle.readItems_items adds
  simp only [read, tokenized, session.macros.expand_eq_self unmarked, nonempty, headed, built,
    bind, Except.bind, Bool.false_eq_true, if_false]

/-- A line that is a name and nothing else invokes the command with an empty bundle. -/
theorem read_of_tokens {name : CommandName} (tokenized : tokenize line = .ok name.tokens)
    (wellFormed : name.WellFormed) : session.read line = (do
      let (owner, command) ← session.registry.resolve name
      checkRules command.rules {}
      return some { owner, command, bundle := {} }) := by
  refine read_items [] ?_ wellFormed rfl
  rw [tokenized, List.flatMap_nil, List.append_nil]

end Items

end Session
end CommandShell
