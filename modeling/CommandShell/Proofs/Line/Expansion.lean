import CommandShell.Proofs.Line.Unterminated
import CommandShell.Proofs.Line.Writing

/-!
# References to macros among tokens

A marker, the word behind it and, if there is one, the marker behind that word are a reference.
Read from the left, with a closing marker taken whenever there is one, every sequence of tokens
falls into pieces in exactly one way: references, tokens outside references and markers without
a name.  Expansion goes from piece to piece and stops at the first that is at fault.
-/

namespace CommandShell

/-- A part of a sequence of tokens in which references to macros are read. -/
inductive Piece where
  /-- A token outside references. -/
  | plain (token : Token)
  /-- A reference to a macro, with a closing marker or without one. -/
  | reference (name : String)
  /-- A marker without a name behind it. -/
  | dangling
  deriving DecidableEq, Repr

/-- The pieces of a sequence of tokens, read from the left.  A marker behind the name of a
reference closes it, even where it could open the next one. -/
inductive Reading : List Token → List Piece → Prop
  | nil : Reading [] []
  | plain {token : Token} {rest : List Token} {pieces : List Piece}
      (unmarked : token ≠ .macroMarker) (later : Reading rest pieces) :
      Reading (token :: rest) (.plain token :: pieces)
  | closed {name : String} {rest : List Token} {pieces : List Piece}
      (later : Reading rest pieces) :
      Reading (.macroMarker :: .word name :: .macroMarker :: rest) (.reference name :: pieces)
  | unclosed {name : String} {rest : List Token} {pieces : List Piece}
      (unmarked : rest.head? ≠ some .macroMarker) (later : Reading rest pieces) :
      Reading (.macroMarker :: .word name :: rest) (.reference name :: pieces)
  | dangling {rest : List Token} {pieces : List Piece}
      (nameless : ∀ name, rest.head? ≠ some (.word name)) (later : Reading rest pieces) :
      Reading (.macroMarker :: rest) (.dangling :: pieces)

namespace Reading

variable {tokens first second : List Token} {pieces others firstPieces secondPieces : List Piece}

theorem exists_reading : ∀ tokens : List Token, ∃ pieces, Reading tokens pieces
  | [] => ⟨[], .nil⟩
  | token :: rest => by
      by_cases marker : token = .macroMarker
      · subst marker
        by_cases named : ∃ name, rest.head? = some (.word name)
        · obtain ⟨name, named⟩ := named
          obtain ⟨after, rfl⟩ := List.head?_eq_some_iff.1 named
          by_cases marked : after.head? = some .macroMarker
          · obtain ⟨behind, rfl⟩ := List.head?_eq_some_iff.1 marked
            obtain ⟨pieces, later⟩ := exists_reading behind
            exact ⟨_, .closed later⟩
          · obtain ⟨pieces, later⟩ := exists_reading after
            exact ⟨_, .unclosed marked later⟩
        · obtain ⟨pieces, later⟩ := exists_reading rest
          exact ⟨_, .dangling (not_exists.1 named) later⟩
      · obtain ⟨pieces, later⟩ := exists_reading rest
        exact ⟨_, .plain marker later⟩
  termination_by tokens => tokens.length

theorem unique (reading : Reading tokens pieces) (other : Reading tokens others) :
    others = pieces := by
  induction reading generalizing others with
  | nil =>
      cases other
      rfl
  | plain unmarked later ih =>
      cases other with
      | plain _ otherLater => rw [ih otherLater]
      | closed | unclosed | dangling => exact absurd rfl unmarked
  | closed later ih =>
      cases other with
      | plain unmarked => exact absurd rfl unmarked
      | closed otherLater => rw [ih otherLater]
      | unclosed unmarked => exact absurd rfl unmarked
      | dangling nameless => exact absurd rfl (nameless _)
  | unclosed unmarked later ih =>
      cases other with
      | plain plain => exact absurd rfl plain
      | closed => exact absurd rfl unmarked
      | unclosed _ otherLater => rw [ih otherLater]
      | dangling nameless => exact absurd rfl (nameless _)
  | dangling nameless later ih =>
      cases other with
      | plain unmarked => exact absurd rfl unmarked
      | closed | unclosed => exact absurd rfl (nameless _)
      | dangling _ otherLater => rw [ih otherLater]

/-- Two sequences are read one without the other if nothing of the second can be taken for a part
of a reference that the first one begins. -/
theorem append (reading : Reading first firstPieces) (complete : .dangling ∉ firstPieces)
    (other : Reading second secondPieces) (unmarked : second.head? ≠ some .macroMarker) :
    Reading (first ++ second) (firstPieces ++ secondPieces) := by
  induction reading with
  | nil => exact other
  | plain plain later ih =>
      rw [List.mem_cons, not_or] at complete
      exact .plain plain (ih complete.2)
  | closed later ih =>
      rw [List.mem_cons, not_or] at complete
      exact .closed (ih complete.2)
  | @unclosed name rest pieces noMarker later ih =>
      rw [List.mem_cons, not_or] at complete
      refine .unclosed ?_ (ih complete.2)
      cases rest with
      | nil => exact unmarked
      | cons token rest => exact noMarker
  | dangling => simp at complete

end Reading

/-- The errors with which the scanner fails. -/
inductive Lexical : ShellError → Prop
  | escape : Lexical .unterminatedEscape
  | quote : Lexical .unterminatedQuote

theorem lexical_of_tokenize {line : String} {error : ShellError}
    (fails : tokenize line = .error error) : Lexical error := by
  cases (Line.scan_eq_error_iff line.toList error).1 fails with
  | escape => exact .escape
  | quote => exact .quote

/-- The error of a piece that cannot be expanded. -/
inductive Faulty (macros : MacroTable) : Piece → ShellError → Prop
  | dangling : Faulty macros .dangling .danglingMacroMarker
  | undefined {name : String} (missing : macros.find? name = none) :
      Faulty macros (.reference name) (.undefinedMacro name)
  | lexical {name body : String} {error : ShellError} (found : macros.find? name = some body)
      (fails : tokenize body = .error error) : Faulty macros (.reference name) error

/-- Whether a piece is the first of a sequence that cannot be expanded. -/
def FirstFault (macros : MacroTable) (pieces : List Piece) (piece : Piece) : Prop :=
  ∃ before after, pieces = before ++ piece :: after ∧
    (∀ earlier ∈ before, ∀ error, ¬ Faulty macros earlier error) ∧
    ∃ error, Faulty macros piece error

/-- The tokens of the body of a macro, none if there is no such macro or its body cannot be
scanned. -/
def MacroTable.bodyTokens (macros : MacroTable) (name : String) : List Token :=
  ((macros.find? name).bind fun body => (tokenize body).toOption).getD []

namespace Piece

def isPlain : Piece → Bool
  | plain _ => true
  | _ => false

def name? : Piece → Option String
  | reference name => some name
  | _ => none

/-- The tokens of a piece that is not at fault. -/
def tokens (macros : MacroTable) : Piece → List Token
  | plain token => [token]
  | reference name => macros.bodyTokens name
  | dangling => []

/-- The tokens of a piece, or the error that it is at fault with. -/
def expand (macros : MacroTable) : Piece → Except ShellError (List Token)
  | plain token => .ok [token]
  | reference name => macros.expansion name
  | dangling => .error .danglingMacroMarker

variable {macros : MacroTable} {piece : Piece} {error : ShellError}

theorem faulty_iff : Faulty macros piece error ↔ piece.expand macros = .error error := by
  constructor
  · rintro (_ | missing | ⟨found, fails⟩)
    · rfl
    · rw [expand, MacroTable.expansion, missing]
    · rw [expand, MacroTable.expansion, found]
      exact fails
  · intro fails
    cases piece with
    | plain token => cases fails
    | dangling =>
        cases fails
        exact .dangling
    | reference name =>
        rw [expand, MacroTable.expansion] at fails
        split at fails
        · next body found => exact .lexical found fails
        · next missing =>
            cases fails
            exact .undefined missing

theorem tokens_of_expand {inner : List Token} (expanded : piece.expand macros = .ok inner) :
    piece.tokens macros = inner := by
  cases piece with
  | plain token =>
      cases expanded
      rfl
  | dangling => cases expanded
  | reference name =>
      rw [expand, MacroTable.expansion] at expanded
      split at expanded
      · next body found => simp [tokens, MacroTable.bodyTokens, found, expanded, Except.toOption]
      · cases expanded

theorem sound_iff : (∀ error, ¬ Faulty macros piece error) ↔
    ∃ inner, piece.expand macros = .ok inner := by
  simp only [faulty_iff]
  cases piece.expand macros <;> simp

end Piece

namespace Reading

variable {macros : MacroTable} {tokens result : List Token} {pieces : List Piece}
  {error : ShellError}

/-- The tokens that a sequence of pieces stands for. -/
def expandPieces (macros : MacroTable) : List Piece → Except ShellError (List Token)
  | [] => .ok []
  | piece :: rest => do
      let inner ← piece.expand macros
      return inner ++ (← expandPieces macros rest)

theorem expand_eq (reading : Reading tokens pieces) (macros : MacroTable) :
    macros.expand tokens = expandPieces macros pieces := by
  induction reading with
  | nil => rfl
  | @plain token rest pieces unmarked later ih =>
      rw [expandPieces, ← ih]
      cases token with
      | macroMarker => exact absurd rfl unmarked
      | _ => rfl
  | closed later ih =>
      rw [expandPieces, ← ih]
      rfl
  | @unclosed name rest pieces unmarked later ih =>
      rw [expandPieces, ← ih]
      cases rest with
      | nil => rfl
      | cons token rest =>
          cases token with
          | macroMarker => exact absurd rfl unmarked
          | _ => rfl
  | @dangling rest pieces nameless later ih =>
      rw [expandPieces]
      cases rest with
      | nil => rfl
      | cons token rest =>
          cases token with
          | word name => exact absurd rfl (nameless name)
          | _ => rfl

theorem expandPieces_cons {piece : Piece} {inner : List Token}
    (expanded : piece.expand macros = .ok inner) (rest : List Piece) :
    expandPieces macros (piece :: rest) = (inner ++ ·) <$> expandPieces macros rest := by
  rw [expandPieces, expanded]
  rfl

theorem firstFault_cons_iff {head piece : Piece} {rest : List Piece} :
    FirstFault macros (head :: rest) piece ↔
      (piece = head ∧ ∃ error, Faulty macros head error) ∨
        ((∀ error, ¬ Faulty macros head error) ∧ FirstFault macros rest piece) := by
  constructor
  · rintro ⟨before, after, split, sound, faulty⟩
    cases before with
    | nil =>
        obtain ⟨rfl, -⟩ := List.cons.inj split
        exact .inl ⟨rfl, faulty⟩
    | cons first before =>
        obtain ⟨rfl, restEq⟩ := List.cons.inj split
        rw [List.forall_mem_cons] at sound
        exact .inr ⟨sound.1, before, after, restEq, sound.2, faulty⟩
  · rintro (⟨rfl, faulty⟩ | ⟨sound, before, after, rfl, soundBefore, faulty⟩)
    · exact ⟨[], rest, rfl, nofun, faulty⟩
    · exact ⟨head :: before, after, rfl, List.forall_mem_cons.2 ⟨sound, soundBefore⟩, faulty⟩

/-- Expansion fails with the error of the first piece that is at fault. -/
theorem expandPieces_eq_error_iff : expandPieces macros pieces = .error error ↔
    ∃ piece, FirstFault macros pieces piece ∧ Faulty macros piece error := by
  induction pieces with
  | nil =>
      constructor
      · rintro ⟨⟩
      · rintro ⟨_, ⟨before, after, split, -⟩, -⟩
        simp at split
  | cons head rest ih =>
      simp only [firstFault_cons_iff]
      cases expanded : head.expand macros with
      | error first =>
          have faulty : Faulty macros head first := Piece.faulty_iff.2 expanded
          have fails : expandPieces macros (head :: rest) = .error first := by
            rw [expandPieces, expanded]
            rfl
          rw [fails]
          constructor
          · rintro ⟨⟩
            exact ⟨head, .inl ⟨rfl, error, faulty⟩, faulty⟩
          · rintro ⟨piece, ⟨rfl, -⟩ | ⟨sound, -⟩, other⟩
            · rw [Piece.faulty_iff, expanded] at other
              exact other
            · exact absurd faulty (sound first)
      | ok inner =>
          have sound : ∀ error, ¬ Faulty macros head error := Piece.sound_iff.2 ⟨inner, expanded⟩
          rw [expandPieces_cons expanded, map_eq_error_iff, ih]
          constructor
          · rintro ⟨piece, first, faulty⟩
            exact ⟨piece, .inr ⟨sound, first⟩, faulty⟩
          · rintro ⟨piece, ⟨rfl, -⟩ | ⟨-, first⟩, faulty⟩
            · exact absurd faulty (sound error)
            · exact ⟨piece, first, faulty⟩

/-- Expansion succeeds if no piece is at fault, and puts the tokens of the pieces together. -/
theorem expandPieces_eq_ok_iff : expandPieces macros pieces = .ok result ↔
    (∀ piece ∈ pieces, ∀ error, ¬ Faulty macros piece error) ∧
      result = pieces.flatMap (Piece.tokens macros) := by
  induction pieces generalizing result with
  | nil =>
      constructor
      · rintro ⟨⟩
        exact ⟨nofun, rfl⟩
      · rintro ⟨-, rfl⟩
        rfl
  | cons head rest ih =>
      rw [List.forall_mem_cons, List.flatMap_cons]
      constructor
      · intro expanded
        obtain ⟨inner, headEq, expanded⟩ := bind_eq_ok_iff.1 expanded
        obtain ⟨later, restEq, ⟨⟩⟩ := bind_eq_ok_iff.1 expanded
        obtain ⟨sound, rfl⟩ := ih.1 restEq
        rw [Piece.tokens_of_expand headEq]
        exact ⟨⟨Piece.sound_iff.2 ⟨inner, headEq⟩, sound⟩, rfl⟩
      · rintro ⟨⟨soundHead, sound⟩, rfl⟩
        obtain ⟨inner, headEq⟩ := Piece.sound_iff.1 soundHead
        rw [expandPieces_cons headEq, ih.2 ⟨sound, rfl⟩, Piece.tokens_of_expand headEq]
        rfl

theorem expandPieces_append {first second : List Piece} {outer : List Token}
    (expanded : expandPieces macros first = .ok outer) :
    expandPieces macros (first ++ second) = (outer ++ ·) <$> expandPieces macros second := by
  induction first generalizing outer with
  | nil =>
      cases expanded
      exact (id_map _).symm
  | cons piece first ih =>
      obtain ⟨inner, pieceEq, expanded⟩ := bind_eq_ok_iff.1 expanded
      obtain ⟨later, firstEq, ⟨⟩⟩ := bind_eq_ok_iff.1 expanded
      rw [List.cons_append, expandPieces_cons pieceEq, ih firstEq, Functor.map_map]
      simp only [List.append_assoc]

end Reading

/-- The tokens `outer` and then those that a second sequence expands to, if it can be expanded. -/
structure ExpandsBehind (macros : MacroTable) (outer later whole : List Token) : Prop where
  expanded : ∀ inner, macros.expand later = .ok inner → macros.expand whole = .ok (outer ++ inner)
  fails : ∀ error, macros.expand later = .error error → macros.expand whole = .error error

/-- Expansion is told from the pieces of a sequence of tokens: it fails if one of them is at fault,
with the error of the first of these, and otherwise it puts the tokens of the pieces together. -/
structure ExpandsByPieces (macros : MacroTable) (tokens : List Token) (pieces : List Piece) :
    Prop where
  dangling : macros.expand tokens = .error .danglingMacroMarker ↔
    FirstFault macros pieces .dangling
  undefined : ∀ name, macros.expand tokens = .error (.undefinedMacro name) ↔
    FirstFault macros pieces (.reference name) ∧ macros.find? name = none
  lexical : ∀ error, Lexical error → (macros.expand tokens = .error error ↔
    ∃ name body, FirstFault macros pieces (.reference name) ∧
      macros.find? name = some body ∧ tokenize body = .error error)
  noOther : ∀ error, macros.expand tokens = .error error →
    error = .danglingMacroMarker ∨ (∃ name, error = .undefinedMacro name) ∨ Lexical error
  success : ∀ result, macros.expand tokens = .ok result ↔
    (∀ piece ∈ pieces, ∀ error, ¬ Faulty macros piece error) ∧
      result = pieces.flatMap (Piece.tokens macros)
  length : ∀ result, macros.expand tokens = .ok result →
    result.length = pieces.countP Piece.isPlain +
      ((pieces.filterMap Piece.name?).map fun name => (macros.bodyTokens name).length).sum

theorem length_flatMap_tokens (macros : MacroTable) (pieces : List Piece) :
    (pieces.flatMap (Piece.tokens macros)).length = pieces.countP Piece.isPlain +
      ((pieces.filterMap Piece.name?).map fun name => (macros.bodyTokens name).length).sum := by
  induction pieces with
  | nil => rfl
  | cons piece pieces ih =>
      rw [List.flatMap_cons, List.length_append, ih]
      cases piece with
      | plain token =>
          have counted : (Piece.plain token :: pieces).countP Piece.isPlain =
              pieces.countP Piece.isPlain + 1 := List.countP_cons_of_pos rfl
          have named : (Piece.plain token :: pieces).filterMap Piece.name? =
              pieces.filterMap Piece.name? := rfl
          rw [counted, named, Piece.tokens, List.length_singleton]
          omega
      | reference name =>
          have counted : (Piece.reference name :: pieces).countP Piece.isPlain =
              pieces.countP Piece.isPlain := List.countP_cons_of_neg nofun
          have named : (Piece.reference name :: pieces).filterMap Piece.name? =
              name :: pieces.filterMap Piece.name? := rfl
          rw [counted, named, Piece.tokens, List.map_cons, List.sum_cons]
          omega
      | dangling =>
          have counted : (Piece.dangling :: pieces).countP Piece.isPlain =
              pieces.countP Piece.isPlain := List.countP_cons_of_neg nofun
          have named : (Piece.dangling :: pieces).filterMap Piece.name? =
              pieces.filterMap Piece.name? := rfl
          rw [counted, named, Piece.tokens, List.length_nil, Nat.zero_add]

theorem Reading.expandsByPieces {tokens : List Token} {pieces : List Piece}
    (reading : Reading tokens pieces) (macros : MacroTable) :
    ExpandsByPieces macros tokens pieces := by
  have errorIff (error : ShellError) : macros.expand tokens = .error error ↔
      ∃ piece, FirstFault macros pieces piece ∧ Faulty macros piece error := by
    rw [reading.expand_eq]
    exact expandPieces_eq_error_iff
  have okIff (result : List Token) : macros.expand tokens = .ok result ↔
      (∀ piece ∈ pieces, ∀ error, ¬ Faulty macros piece error) ∧
        result = pieces.flatMap (Piece.tokens macros) := by
    rw [reading.expand_eq]
    exact expandPieces_eq_ok_iff
  constructor
  case dangling =>
    rw [errorIff]
    constructor
    · rintro ⟨piece, first, _ | _ | ⟨-, fails⟩⟩
      · exact first
      · cases lexical_of_tokenize fails
    · intro first
      exact ⟨_, first, .dangling⟩
  case undefined =>
    intro name
    rw [errorIff]
    constructor
    · rintro ⟨piece, first, _ | missing | ⟨-, fails⟩⟩
      · exact ⟨first, missing⟩
      · cases lexical_of_tokenize fails
    · rintro ⟨first, missing⟩
      exact ⟨_, first, .undefined missing⟩
  case lexical =>
    intro error lexical
    rw [errorIff]
    constructor
    · rintro ⟨piece, first, _ | _ | ⟨found, fails⟩⟩
      · cases lexical
      · cases lexical
      · exact ⟨_, _, first, found, fails⟩
    · rintro ⟨name, body, first, found, fails⟩
      exact ⟨_, first, .lexical found fails⟩
  case noOther =>
    intro error fails
    obtain ⟨piece, -, _ | _ | ⟨-, fails⟩⟩ := (errorIff error).1 fails
    · exact .inl rfl
    · exact .inr (.inl ⟨_, rfl⟩)
    · exact .inr (.inr (lexical_of_tokenize fails))
  case success => exact okIff
  case length =>
    intro result expanded
    obtain ⟨-, rfl⟩ := (okIff result).1 expanded
    exact length_flatMap_tokens macros pieces

/-- What expansion does to any tokens: to those before others that do not begin with a marker, to
those without a marker, and to all tokens, piece by piece. -/
theorem expands_in_pieces (macros : MacroTable) (tokens : List Token) :
    (∀ outer, macros.expand tokens = .ok outer → ∀ later : List Token,
      later.head? ≠ some .macroMarker → ExpandsBehind macros outer later (tokens ++ later)) ∧
      (.macroMarker ∉ tokens → macros.expand tokens = .ok tokens) ∧
      ∃ pieces, Reading tokens pieces ∧ (∀ others, Reading tokens others → others = pieces) ∧
        ExpandsByPieces macros tokens pieces := by
  obtain ⟨pieces, reading⟩ := Reading.exists_reading tokens
  refine ⟨?_, macros.expand_eq_self, pieces, reading, ?_, reading.expandsByPieces macros⟩
  · intro outer expanded later unmarked
    obtain ⟨laterPieces, laterReading⟩ := Reading.exists_reading later
    rw [reading.expand_eq] at expanded
    -- a marker without a name would take the first word of `later` for one
    have complete : .dangling ∉ pieces := by
      intro member
      exact (Reading.expandPieces_eq_ok_iff.1 expanded).1 _ member _ .dangling
    have whole : macros.expand (tokens ++ later) = (outer ++ ·) <$> macros.expand later := by
      rw [(reading.append complete laterReading unmarked).expand_eq, laterReading.expand_eq]
      exact Reading.expandPieces_append expanded
    constructor
    · intro inner expandedLater
      rw [whole, expandedLater]
      rfl
    · intro error fails
      rw [whole, fails]
      rfl
  · intro others other
    exact reading.unique other

def abbreviations : MacroTable := .ofList [("a", "x -y"), ("b", "\"")]

/-- The second marker closes the reference to `a`, so `b` is a word there and not a reference;
behind a token that is no marker it is one, and its body cannot be scanned. -/
theorem expands_eaten_marker :
    abbreviations.expand [.macroMarker, .word "a", .macroMarker, .word "b"] =
        .ok [.word "x", .flagMarker, .word "y", .word "b"] ∧
      [Token.assign, .macroMarker, .word "b"].head? ≠ some .macroMarker ∧
      abbreviations.expand [.macroMarker, .word "a", .macroMarker, .word "b", .assign,
        .macroMarker, .word "b"] = .error .unterminatedQuote := by
  have expanded : abbreviations.expand [.macroMarker, .word "a", .macroMarker, .word "b"] =
      .ok [.word "x", .flagMarker, .word "y", .word "b"] := by rfl
  have unmarked : [Token.assign, .macroMarker, .word "b"].head? ≠ some .macroMarker := by decide
  obtain ⟨joins, -⟩ := expands_in_pieces abbreviations
    [.macroMarker, .word "a", .macroMarker, .word "b"]
  have fails := (joins _ expanded _ unmarked).fails .unterminatedQuote (by rfl)
  exact ⟨expanded, unmarked, fails⟩

end CommandShell
