import CommandShell.Proofs.Regex.Wrapping
import CommandShell.Regex.Engine

/-!
# Engines and whole words

What an expression matches are stretches of a line.  Of an engine it is assumed that its boundaries,
groups and sequences match what they should, that they are what a group between two boundaries is
read as, and that what stands in a group is well formed.  The standard engine conforms to that.
-/

namespace CommandShell
namespace Regex

open Builtin (wholeWords)

/-- A word begins or ends at a position of a line. -/
def WordEdge (isWord : Char → Bool) (chars : List Char) (position : Nat) : Prop :=
  position ≤ chars.length ∧
    (if position = 0 then none else chars[position - 1]?).any isWord ≠ chars[position]?.any isWord

namespace Engine

/-- The expressions for `\b`, for a group and for expressions in a row, the characters of words, and
the stretches of a line that an expression matches. -/
structure Constructs (engine : Engine) where
  boundary : engine.Expression
  group : engine.Expression → engine.Expression
  sequence : List engine.Expression → engine.Expression
  isWord : Char → Bool
  Spans : engine.Expression → List Char → Nat → Nat → Prop

def WellFormed (engine : Engine) (pattern : String) (ignoreCase : Bool) : Prop :=
  ∀ text, engine.build pattern ignoreCase ≠ .error (.malformed text)

variable {engine : Engine} {constructs : engine.Constructs} {ignoreCase : Bool}

/-- What is known of an engine. -/
structure Conforms (engine : Engine) (constructs : engine.Constructs) : Prop where
  isMatch_iff : ∀ {expression line}, engine.isMatch expression line = true ↔
    ∃ first last, constructs.Spans expression line.toList first last
  spans_boundary : ∀ {line first last}, constructs.Spans constructs.boundary line first last ↔
    first = last ∧ WordEdge constructs.isWord line first
  spans_group : ∀ {expression line first last},
    constructs.Spans (constructs.group expression) line first last ↔
      constructs.Spans expression line first last
  spans_nil : ∀ {line first last}, constructs.Spans (constructs.sequence []) line first last ↔
    first = last ∧ first ≤ line.length
  spans_cons : ∀ {expression rest line first last},
    constructs.Spans (constructs.sequence (expression :: rest)) line first last ↔
      ∃ middle, constructs.Spans expression line first middle ∧
        constructs.Spans (constructs.sequence rest) line middle last
  /-- A boundary, a group and a boundary are read as these, if a pattern stands in the group. -/
  reads : ∀ {pattern ignoreCase inner expression}, engine.build pattern ignoreCase = .ok inner →
    engine.build ("\\b(" ++ pattern ++ ")\\b") ignoreCase = .ok expression →
      expression = constructs.sequence
        [constructs.boundary, constructs.group inner, constructs.boundary]
  /-- A parenthesis that no question mark follows opens a group, which is closed behind a
  pattern. -/
  closes : ∀ {rest ignoreCase expression},
    engine.build ("\\b(" ++ rest) ignoreCase = .ok expression → rest.toList.head? ≠ some '?' →
      ∃ front behind, rest = front ++ ")" ++ behind ∧ engine.WellFormed front ignoreCase
  /-- A pattern that is small enough with boundaries around it is so without them. -/
  fits : ∀ {pattern ignoreCase expression},
    engine.build ("\\b(" ++ pattern ++ ")\\b") ignoreCase = .ok expression →
      ∀ text, engine.build pattern ignoreCase ≠ .error (.tooLarge text)

/-- A line contains a stretch that an expression matches. -/
def Constructs.Occurs (constructs : engine.Constructs) (expression : engine.Expression)
    (line : String) : Prop :=
  ∃ first last, constructs.Spans expression line.toList first last

/-- A line contains such a stretch from one edge of a word to another. -/
def Constructs.OccursAsWords (constructs : engine.Constructs) (expression : engine.Expression)
    (line : String) : Prop :=
  ∃ first last, WordEdge constructs.isWord line.toList first ∧
    constructs.Spans expression line.toList first last ∧
    WordEdge constructs.isWord line.toList last

theorem Constructs.OccursAsWords.occurs {expression : engine.Expression} {line : String}
    (occurs : constructs.OccursAsWords expression line) : constructs.Occurs expression line := by
  obtain ⟨first, last, -, spans, -⟩ := occurs
  exact ⟨first, last, spans⟩

theorem Conforms.occurs_words_iff (conforms : engine.Conforms constructs)
    {expression : engine.Expression} {line : String} :
    constructs.Occurs (constructs.sequence
        [constructs.boundary, constructs.group expression, constructs.boundary]) line ↔
      constructs.OccursAsWords expression line := by
  simp only [Constructs.Occurs, Constructs.OccursAsWords, conforms.spans_cons, conforms.spans_nil,
    conforms.spans_group, conforms.spans_boundary]
  constructor
  · rintro ⟨first, last, _, ⟨rfl, edge⟩, middle, spans, _, ⟨rfl, lastEdge⟩, rfl, -⟩
    exact ⟨first, middle, edge, spans, lastEdge⟩
  · rintro ⟨first, last, edge, spans, lastEdge⟩
    exact ⟨first, last, first, ⟨rfl, edge⟩, last, spans, last, ⟨rfl, lastEdge⟩, rfl, lastEdge.1⟩

/-- A pattern that takes a parenthesis around it for its own: it opens with a question mark, or it
closes a group that it has not opened. -/
def TakesParenthesis (engine : Engine) (pattern : String) (ignoreCase : Bool) : Prop :=
  pattern.toList.head? = some '?' ∨
    ∃ front behind, pattern = front ++ ")" ++ behind ∧ engine.WellFormed front ignoreCase

/-- In front of a parenthesis there is a whole pattern or a part of it up to another one. -/
theorem front_of_split {pattern after front behind : List Char} (unclosed : ')' ∉ after)
    (split : pattern ++ ')' :: after = front ++ ')' :: behind) :
    front = pattern ∨ ∃ middle, pattern = front ++ ')' :: middle := by
  rcases List.append_eq_append_iff.1 split with ⟨more, rfl, tail⟩ | ⟨more, rfl, tail⟩
  · cases more with
    | nil => exact .inl (List.append_nil _)
    | cons c more =>
        obtain ⟨-, rfl⟩ := List.cons.inj tail
        exact absurd (by simp) unclosed
  · cases more with
    | nil => exact .inl (List.append_nil _).symm
    | cons c more =>
        obtain ⟨rfl, -⟩ := List.cons.inj tail
        exact .inr ⟨more, rfl⟩

/-- A pattern that can stand for whole words is one of its own, unless it takes a parenthesis. -/
theorem Conforms.build_of_words (conforms : engine.Conforms constructs) {pattern : String}
    {expression : engine.Expression} (leaves : ¬ engine.TakesParenthesis pattern ignoreCase)
    (built : engine.build (wholeWords pattern) ignoreCase = .ok expression) :
    ∃ inner, engine.build pattern ignoreCase = .ok inner := by
  obtain ⟨plain, closed⟩ := not_or.1 leaves
  have assoc : wholeWords pattern = "\\b(" ++ (pattern ++ ")\\b") := String.append_assoc
  have stillPlain : (pattern ++ ")\\b").toList.head? ≠ some '?' := by
    cases chars : pattern.toList with
    | nil => simp [chars]
    | cons c rest => simpa [chars] using plain
  obtain ⟨front, behind, split, formed⟩ := conforms.closes (assoc ▸ built) stillPlain
  have splitChars : pattern.toList ++ ')' :: ['\\', 'b'] =
      front.toList ++ ')' :: behind.toList := by
    simpa using congrArg String.toList split
  rcases front_of_split (by decide) splitChars with whole | ⟨middle, early⟩
  · obtain rfl := String.toList_injective whole
    cases refused : engine.build front ignoreCase with
    | ok inner => exact ⟨inner, rfl⟩
    | error refusal =>
        cases refusal with
        | malformed text => exact absurd refused (formed text)
        | tooLarge text => exact absurd refused (conforms.fits built text)
  · refine absurd ⟨front, .ofList middle, String.toList_injective ?_, formed⟩ closed
    simpa using early

/-- The constructs of the standard engine. -/
def standardConstructs : Engine.standard.Constructs where
  boundary := Expression.look (.wordBoundary false)
  group expression := expression
  sequence := List.foldr Expression.sequence .empty
  isWord := Regex.isWord false
  Spans expression line first last :=
    first ≤ line.length ∧ Expression.Spans line.toArray expression first last

section Standard

variable {pattern text : String} {expression : Regex.Expression}

theorem build_standard_eq_ok_iff : Engine.standard.build pattern ignoreCase = .ok expression ↔
    parse pattern ignoreCase = .ok expression := by
  change (parse pattern ignoreCase).mapError _ = _ ↔ _
  cases parse pattern ignoreCase with
  | error error => exact ⟨nofun, nofun⟩
  | ok inner =>
      change Except.ok inner = .ok expression ↔ _
      rw [Except.ok.injEq, Except.ok.injEq]

theorem build_standard_of_error {error : SyntaxError}
    (refused : parse pattern ignoreCase = .error error) :
    Engine.standard.build pattern ignoreCase = .error (error.refusal pattern) := by
  change (parse pattern ignoreCase).mapError _ = _
  rw [refused]
  rfl

theorem wellFormed_standard_iff : Engine.standard.WellFormed pattern ignoreCase ↔
    ∀ error, parse pattern ignoreCase = .error error → error.isLimit = true := by
  constructor
  · intro formed error refused
    by_contra noLimit
    refine formed (error.message pattern) ?_
    rw [build_standard_of_error refused, SyntaxError.refusal, if_neg noLimit]
  · intro limits text malformed
    cases parsed : parse pattern ignoreCase with
    | error error =>
        rw [build_standard_of_error parsed, SyntaxError.refusal, if_pos (limits error parsed)]
          at malformed
        cases malformed
    | ok expression => cases (build_standard_eq_ok_iff.2 parsed).symm.trans malformed

theorem spans_standard_boundary_iff {line : List Char} {first last : Nat} :
    standardConstructs.Spans standardConstructs.boundary line first last ↔
      first = last ∧ WordEdge standardConstructs.isWord line first := by
  simp only [standardConstructs, Regex.Expression.Spans, WordEdge, Look.holds, bne_iff_ne,
    List.size_toArray, List.getElem?_toArray]
  constructor
  · rintro ⟨small, -, rfl, edge⟩
    exact ⟨rfl, small, edge⟩
  · rintro ⟨rfl, small, edge⟩
    exact ⟨small, small, rfl, edge⟩

theorem conforms_standard : Engine.standard.Conforms standardConstructs where
  isMatch_iff := matchesIn_iff
  spans_boundary := spans_standard_boundary_iff
  spans_group := Iff.rfl
  spans_nil := by
    intro line first last
    exact ⟨fun ⟨small, same⟩ => ⟨same.symm, small⟩, fun ⟨same, small⟩ => ⟨small, same.symm⟩⟩
  spans_cons := by
    intro expression rest line first last
    constructor
    · rintro ⟨small, middle, spans, later⟩
      have middleSmall := (Expression.moves line.toArray expression).bounded spans (by simpa)
      exact ⟨middle, ⟨small, spans⟩, by simpa using middleSmall, later⟩
    · rintro ⟨middle, ⟨small, spans⟩, -, later⟩
      exact ⟨small, middle, spans, later⟩
  reads := by
    intro pattern ignoreCase inner expression built wrapped
    have read := build_standard_eq_ok_iff.1 built
    rcases parse_wholeWords (build_standard_eq_ok_iff.1 wrapped) with
      ⟨error, refused, -⟩ | ⟨again, parsed, rfl⟩
    · cases read.symm.trans refused
    · obtain rfl : inner = again := Except.ok.inj (read.symm.trans parsed)
      rfl
  closes := by
    intro rest ignoreCase expression built plain
    obtain ⟨front, behind, split, limits⟩ :=
      parse_boundaryGroup plain (build_standard_eq_ok_iff.1 built)
    exact ⟨front, behind, split, wellFormed_standard_iff.2 limits⟩
  fits := by
    intro pattern ignoreCase expression built text exceeds
    rcases parse_wholeWords (build_standard_eq_ok_iff.1 built) with
      ⟨error, refused, noLimit⟩ | ⟨inner, parsed, -⟩
    · rw [build_standard_of_error refused, SyntaxError.refusal, noLimit] at exceeds
      cases exceeds
    · cases (build_standard_eq_ok_iff.2 parsed).symm.trans exceeds

end Standard

end Engine

end Regex
end CommandShell
