import CommandShell.Proofs.Line.Joining
import CommandShell.Proofs.Line.Writing

/-!
# References to macros inside a line

The text before a marker is scanned as it is scanned by itself, since the marker ends every
word, and the text behind the closing marker is scanned as if a line began there.  The body of
the macro is scanned by itself as well.  So `splices_of_isValidName` says that a reference puts
the tokens of the body between those of its surroundings, whatever the three texts are.
-/

namespace CommandShell

/-- A line with a reference to a macro between two texts. -/
def referring (before name after : String) : String := before ++ ";" ++ name ++ ";" ++ after

variable {before name after : String} {outer : List Token}

theorem tokenize_referring (scanned : tokenize before = .ok outer)
    (valid : isValidName name = true) :
    tokenize (referring before name after) =
      (outer ++ [.macroMarker, .word name, .macroMarker] ++ ·) <$> tokenize after := by
  have chars : (referring before name after).toList =
      before.toList ++ ';' :: (name.toList ++ ';' :: after.toList) := by
    simp [referring]
  have endsBefore : Token.EndsWord (';' :: (name.toList ++ ';' :: after.toList)) :=
    .special Token.special_marker (by decide)
  have endsName : Token.EndsWord (';' :: after.toList) :=
    .special Token.special_marker (by decide)
  rw [tokenize, chars, Line.scan_append endsBefore scanned,
    Token.scan_special Token.special_marker, Token.scan_name valid endsName,
    Token.scan_special Token.special_marker, tokenize]
  simp only [Functor.map_map, List.append_assoc, List.cons_append, List.nil_append]

namespace MacroTable

variable {macros : MacroTable} {rest : List Token}

theorem expand_referring (macros : MacroTable) (unmarked : .macroMarker ∉ outer)
    (rest : List Token) :
    macros.expand (outer ++ [.macroMarker, .word name, .macroMarker] ++ rest) = (do
      let inner ← macros.expansion name
      let later ← macros.expand rest
      return outer ++ inner ++ later) := by
  rw [List.append_assoc, macros.expand_append unmarked]
  have reference : macros.expand ([.macroMarker, .word name, .macroMarker] ++ rest) = (do
      let inner ← macros.expansion name
      return inner ++ (← macros.expand rest)) := rfl
  rw [reference, map_bind]
  simp only [map_bind, map_pure, List.append_assoc]

end MacroTable

/-- What a reference to a macro between two texts comes to.  The text behind it alone decides
whether the line can be scanned.  If it can, the tokens of the body come to stand between the
tokens `outer` of the text before it and what the text behind it expands to, or the first of
the three failures on the way is that of the line. -/
structure Splices (macros : MacroTable) (before name after : String) (outer : List Token) :
    Prop where
  unscanned : ∀ error, tokenize after = .error error →
    tokenize (referring before name after) = .error error
  scanned : ∀ later, tokenize after = .ok later → ∃ typed,
    tokenize (referring before name after) = .ok typed ∧
      (macros.find? name = none → macros.expand typed = .error (.undefinedMacro name)) ∧
      ∀ body, macros.find? name = some body →
        (∀ error, tokenize body = .error error → macros.expand typed = .error error) ∧
        ∀ inner, tokenize body = .ok inner →
          (∀ error, macros.expand later = .error error → macros.expand typed = .error error) ∧
          ∀ rest, macros.expand later = .ok rest →
            macros.expand typed = .ok (outer ++ inner ++ rest)

/-- Between any two texts, a reference stands for the tokens of the body as they are, provided
that the text before it is complete and has no marker of its own. -/
theorem splices_of_isValidName (macros : MacroTable) (after : String)
    (scanned : tokenize before = .ok outer) (unmarked : .macroMarker ∉ outer)
    (valid : isValidName name = true) : Splices macros before name after outer where
  unscanned error fails := by
    rw [tokenize_referring scanned valid, fails]
    rfl
  scanned later scannedLater := by
    have typed : tokenize (referring before name after) =
        .ok (outer ++ [.macroMarker, .word name, .macroMarker] ++ later) := by
      rw [tokenize_referring scanned valid, scannedLater]
      rfl
    refine ⟨_, typed, ?_⟩
    rw [macros.expand_referring unmarked, MacroTable.expansion]
    refine ⟨fun undefined => ?_, fun body found => ⟨fun error fails => ?_, fun inner inside =>
      ⟨fun error fails => ?_, fun rest expanded => ?_⟩⟩⟩
    · rw [undefined]
      rfl
    · rw [found]
      exact bind_eq_error_iff.2 (.inl fails)
    · rw [found]
      refine bind_eq_error_iff.2 (.inr ⟨inner, inside, ?_⟩)
      exact bind_eq_error_iff.2 (.inl fails)
    · rw [found]
      refine bind_eq_ok_iff.2 ⟨inner, inside, ?_⟩
      exact bind_eq_ok_iff.2 ⟨rest, expanded, rfl⟩

def entangled : MacroTable := .ofList [("q", "\"-b\" ;w;-"), ("w", "x")]

/-- A word that goes on up to the marker, a body with a reference in it and a dash at its end,
and a dash behind the reference: none of them joins with another. -/
theorem splices_entangled :
    tokenize "echo words=a-" = .ok [.word "echo", .word "words", .assign, .word "a-"] ∧
      Token.macroMarker ∉ [.word "echo", .word "words", .assign, .word "a-"] ∧
      isValidName "q" = true ∧
      Splices entangled "echo words=a-" "q" "-d ;w"
        [.word "echo", .word "words", .assign, .word "a-"] ∧
      (do entangled.expand (← tokenize "echo words=a-;q;-d ;w")) =
        .ok ([.word "echo", .word "words", .assign, .word "a-"] ++
          [.word "-b", .macroMarker, .word "w", .macroMarker, .flagMarker] ++
          [.flagMarker, .word "d", .word "x"]) := by
  have scanned : tokenize "echo words=a-" =
      .ok [.word "echo", .word "words", .assign, .word "a-"] := by rfl
  have unmarked :
      Token.macroMarker ∉ [.word "echo", .word "words", .assign, .word "a-"] := by decide
  have valid : isValidName "q" = true := by decide
  have splices := splices_of_isValidName entangled "-d ;w" scanned unmarked valid
  have scannedAfter : tokenize "-d ;w" =
      .ok [.flagMarker, .word "d", .macroMarker, .word "w"] := by rfl
  have inside : tokenize "\"-b\" ;w;-" =
      .ok [.word "-b", .macroMarker, .word "w", .macroMarker, .flagMarker] := by rfl
  have expandedAfter : entangled.expand [.flagMarker, .word "d", .macroMarker, .word "w"] =
      .ok [.flagMarker, .word "d", .word "x"] := by rfl
  obtain ⟨typed, tokenized, -, found⟩ := splices.scanned _ scannedAfter
  have expanded := ((found _ rfl).2 _ inside).2 _ expandedAfter
  exact ⟨scanned, unmarked, valid, splices, bind_eq_ok_iff.2 ⟨typed, tokenized, expanded⟩⟩

end CommandShell
