import CommandShell.Proofs.Session.Soundness

/-!
# Names lead to what is loaded

A valid name is scanned as one word, so it can be typed as it is.  The name of a loaded
module, a dot and the name of one of its commands lead to that command, the name of the
command alone leads there unless other modules have a command of that name, and a marker
before the name of a macro, with or without one behind it, leads to the tokens of its body.
-/

namespace CommandShell

section Scanning

variable {module name : String}

theorem scan_qualified (validModule : isValidName module = true)
    (validName : isValidName name = true) {rest : List Char} (ends : Token.EndsWord rest) :
    Token.scan .between ((module ++ "." ++ name).toList ++ rest) =
      ((CommandName.qualified module name).tokens ++ ·) <$> Token.scan .between rest := by
  have chars : (module ++ "." ++ name).toList ++ rest =
      module.toList ++ '.' :: (name.toList ++ rest) := by simp
  have endsModule : Token.EndsWord ('.' :: (name.toList ++ rest)) :=
    .special Token.special_dot (by decide)
  rw [chars, Token.scan_name validModule endsModule, Token.scan_special Token.special_dot,
    Token.scan_name validName ends]
  simp only [Functor.map_map]
  rfl

theorem tokenize_qualified (validModule : isValidName module = true)
    (validName : isValidName name = true) :
    tokenize (module ++ "." ++ name) = .ok (CommandName.qualified module name).tokens := by
  have scanned := scan_qualified validModule validName .nil
  rw [List.append_nil] at scanned
  rw [tokenize, scanned, Token.scan_nil]
  rfl

theorem tokenize_reference (valid : isValidName name = true) :
    tokenize (";" ++ name) = .ok [.macroMarker, .word name] ∧
      tokenize (";" ++ name ++ ";") = .ok [.macroMarker, .word name, .macroMarker] := by
  have scannedName := tokenize_of_isValidName valid
  have chars : (";" ++ name).toList = ';' :: name.toList := by simp
  have charsClosed : (";" ++ name ++ ";").toList = ';' :: (name.toList ++ [';']) := by simp
  have endsName : Token.EndsWord [';'] := .special Token.special_marker (by decide)
  rw [tokenize] at scannedName
  constructor
  · rw [tokenize, chars, Token.scan_special Token.special_marker, scannedName]
    rfl
  · rw [tokenize, charsClosed, Token.scan_special Token.special_marker,
      Token.scan_name valid endsName, Token.scan_special Token.special_marker,
      Token.scan_nil]
    rfl

/-- A reference to a macro, closed or not, expands to the tokens of the body. -/
theorem expand_reference {macros : MacroTable} {body : String}
    (found : macros.find? name = some body) :
    macros.expand [.macroMarker, .word name] = tokenize body ∧
      macros.expand [.macroMarker, .word name, .macroMarker] = tokenize body := by
  have expansionEq : macros.expansion name = tokenize body := by
    rw [MacroTable.expansion, found]
  have bodyAlone : (do return (← tokenize body) ++ []) = tokenize body := by
    simp only [List.append_nil, bind_pure]
  have unclosed : macros.expand [.macroMarker, .word name] =
      (do return (← macros.expansion name) ++ []) := rfl
  have closed : macros.expand [.macroMarker, .word name, .macroMarker] =
      (do return (← macros.expansion name) ++ []) := rfl
  rw [unclosed, closed, expansionEq]
  exact ⟨bodyAlone, bodyAlone⟩

end Scanning

namespace Registry

variable {registry : Registry} {module : Module} {name : String} {command : Command}

theorem mem_owners {key : String} (loaded : registry.find? key = some module)
    (found : module.command? name = some command) : module ∈ registry.owners name :=
  List.mem_filter.2 ⟨NameMap.mem_values_of_find? loaded, Option.isSome_of_eq_some found⟩

/-- The name of a command leads to it, unless several modules have a command of that
name. -/
theorem resolve_bare {key : String} (loaded : registry.find? key = some module)
    (found : module.command? name = some command) :
    registry.resolve (.bare name) = .ok (module, command) ∨
      ∃ modules, module.name ∈ modules ∧
        registry.resolve (.bare name) = .error (.ambiguousCommand name modules) := by
  have member := mem_owners loaded found
  -- the module is among the owners: either it is the only one, or the name is ambiguous
  simp only [resolve]
  generalize registry.owners name = owners at member ⊢
  cases owners with
  | nil => cases member
  | cons owner others =>
      cases others with
      | nil =>
          obtain rfl := List.mem_singleton.1 member
          simp [found]
      | cons second others => exact .inr ⟨_, List.mem_map_of_mem member, rfl⟩

end Registry

namespace Session

/-- A line is the name of a command and nothing else, and it leads to the command. -/
structure Reaches (session : Session) (line : String) (module : Module) (command : Command) :
    Prop where
  resolves : ∃ name, session.headOf? line = some (name, []) ∧
    session.registry.resolve name = .ok (module, command)
  reads : session.read line = (do
    checkRules command.rules {}
    return some ⟨module, command, {}⟩)

variable {session : Session} {line : String} {module : Module} {command : Command}

theorem headOf?_of_tokens {name : CommandName} (tokenized : tokenize line = .ok name.tokens)
    (wellFormed : name.WellFormed) : session.headOf? line = some (name, []) := by
  have unmarked : .macroMarker ∉ name.tokens := by cases name <;> simp [CommandName.tokens]
  have headed : CommandName.split (name.tokens ++ []) = .ok (name, []) :=
    CommandName.split_tokens wellFormed (by simp)
  rw [List.append_nil] at headed
  refine headOf?_eq_some_iff.2 ⟨name.tokens, ?_, by cases name <;> rfl, headed⟩
  exact bind_eq_ok_iff.2 ⟨name.tokens, tokenized, session.macros.expand_eq_self unmarked⟩

theorem reaches_of_resolve {name : CommandName} (tokenized : tokenize line = .ok name.tokens)
    (wellFormed : name.WellFormed)
    (resolved : session.registry.resolve name = .ok (module, command)) :
    Reaches session line module command where
  resolves := ⟨name, headOf?_of_tokens tokenized wellFormed, resolved⟩
  reads := by
    rw [read_of_tokens tokenized wellFormed, resolved]
    rfl

/-- Whatever is loaded can be had by its name, and whatever is defined under a valid one. -/
structure Addressable (session : Session) : Prop where
  qualified : ∀ module loaded name command, session.registry.find? module = some loaded →
    loaded.command? name = some command →
      Reaches session (module ++ "." ++ name) loaded command
  bare : ∀ module loaded name command, session.registry.find? module = some loaded →
    loaded.command? name = some command →
      Reaches session name loaded command ∨ ∃ modules, module ∈ modules ∧
        session.headOf? name = some (.bare name, []) ∧
        session.read name = .error (.ambiguousCommand name modules)
  macros : ∀ name body, isValidName name = true → session.macros.find? name = some body →
    session.tokensOf (";" ++ name ++ ";") = tokenize body ∧
      session.tokensOf (";" ++ name) = tokenize body

theorem ne_empty_of_isValidName {name : String} (valid : isValidName name = true) : name ≠ "" := by
  rintro rfl
  cases valid

theorem Sound.addressable (sound : session.Sound) : Addressable session where
  qualified module loaded name command found has := by
    obtain ⟨rfl, wellFormed⟩ := sound.registry.modules module loaded found
    obtain ⟨-, validName⟩ := wellFormed.named name command has
    have resolved : session.registry.resolve (.qualified loaded.name name) =
        .ok (loaded, command) := by
      simp only [Registry.resolve, found, has]
    exact reaches_of_resolve (tokenize_qualified wellFormed.validName validName)
      ⟨ne_empty_of_isValidName wellFormed.validName, ne_empty_of_isValidName validName⟩ resolved
  bare module loaded name command found has := by
    obtain ⟨rfl, wellFormed⟩ := sound.registry.modules module loaded found
    obtain ⟨-, validName⟩ := wellFormed.named name command has
    have tokenized : tokenize name = .ok (CommandName.bare name).tokens :=
      tokenize_of_isValidName validName
    rcases Registry.resolve_bare found has with resolved | ⟨modules, listed, ambiguous⟩
    · exact .inl (reaches_of_resolve tokenized trivial resolved)
    · refine .inr ⟨modules, listed, headOf?_of_tokens tokenized trivial, ?_⟩
      rw [read_of_tokens tokenized trivial, ambiguous]
      rfl
  macros name body valid found := by
    obtain ⟨scanned, scannedClosed⟩ := tokenize_reference valid
    obtain ⟨expanded, expandedClosed⟩ := expand_reference found
    constructor
    · rw [tokensOf, scannedClosed]
      exact expandedClosed
    · rw [tokensOf, scanned]
      exact expanded

/-- Valid names are the words without a dash that the scanner leaves alone, and so, after any
operations and at every point in the middle of evaluating any line there, whatever is loaded can
be had by its name, and so can every macro whose name has been checked. -/
theorem addressable_of_reachable (catalog : Catalog) (assembled : catalog.Assembled) :
    (∀ name, isValidName name = true ↔
      '-' ∉ name.toList ∧ tokenize name = .ok [.word name]) ∧
    ∀ session, Reachable catalog session → Addressable session ∧
      ∀ line point, Within ⟨.line maxCallDepth line, session⟩ point →
        Addressable point.session := by
  refine ⟨isValidName_iff_of_tokenize, fun session reachable => ?_⟩
  have sound := sound_of_reachable assembled reachable
  exact ⟨sound.addressable, fun line point within =>
    (sound.changes (changes_of_within within)).addressable⟩

/-- A new session with one macro. -/
theorem exists_reachable_with_macro (name body : String) (valid : isValidName name = true) :
    ∃ session, Reachable ∅ session ∧ session.macros.find? name = some body := by
  obtain ⟨start, created⟩ : ∃ start, Session.new ∅ = .ok start := ⟨_, rfl⟩
  have free : start.macros.contains name = false := by
    cases created
    rfl
  let session : Session := { start with macros := start.macros.insert name body }
  have added : start.addMacro name body = .ok session := by
    rw [Session.addMacro, MacroTable.add, MacroTable.checkName, if_pos valid, free]
    rfl
  have performed : Task.Yields (start.perform (.addMacro name body)) [] session := by
    rw [perform, added]
    exact .refl _
  refine ⟨session, .perform (.new created) trivial performed trivial, ?_⟩
  rw [NameMap.find?_insert, if_pos rfl]

/-- A macro is found although its body cannot be scanned, and so are the commands of the system. -/
theorem addressable_with_macro : (∅ : Catalog).Assembled ∧
    ∃ session system, Reachable ∅ session ∧
      session.macros.find? "x?" = some "wah! \"" ∧
      session.tokensOf ";x?" = .error .unterminatedQuote ∧
      Reaches session "wah.exit" system SystemModule.exitCommand := by
  have assembled : (∅ : Catalog).Assembled := nofun
  obtain ⟨session, reachable, defined⟩ := exists_reachable_with_macro "x?" "wah! \"" (by decide)
  have addressable := ((addressable_of_reachable ∅ assembled).2 session reachable).1
  obtain ⟨system, isSystem, loaded⟩ := (sound_of_reachable assembled reachable).registry.system
  have has : system.command? "exit" = some SystemModule.exitCommand :=
    (Module.wellFormed_of_build isSystem).2 SystemModule.exitCommand
      (by simp [SystemModule.commands])
  exact ⟨assembled, session, system, reachable, defined,
    (addressable.macros "x?" _ (by decide) defined).2,
    addressable.qualified "wah" system "exit" _ loaded has⟩

/-- A macro whose name is not valid is there, and no reference leads to it. -/
theorem lost_of_overwrite : ∃ session, Reachable (libraryOf overwrite) session ∧
    session.macros.find? "two words" = some "wah!" ∧
    tokenize "wah!" = .ok [.word "wah!"] ∧
    session.tokensOf ";two words;" = .error (.undefinedMacro "two") ∧
    session.tokensOf ";two words" = .error (.undefinedMacro "two") := by
  obtain ⟨_, -, -, -, reachable⟩ := exists_reachable_overwritten
  have closed : tokenize ";two words;" =
      .ok [.macroMarker, .word "two", .word "words", .macroMarker] := by decide +kernel
  have unclosed : tokenize ";two words" = .ok [.macroMarker, .word "two", .word "words"] := by
    decide +kernel
  refine ⟨_, reachable, rfl, by decide +kernel, ?_, ?_⟩
  · rw [tokensOf, closed]
    rfl
  · rw [tokensOf, unclosed]
    rfl

end Session
end CommandShell
