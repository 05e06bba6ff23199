import CommandShell.CommandName

/-!
# Heads of lines

A head has the form `word? ('.' word?)*`.  A list of tokens begins with many heads, from the
empty one on, and with one that is longest.  Splitting the name off a line takes this head
away, and the number of dots in it and the words between them decide what the name is.
-/

namespace CommandShell
namespace CommandName

/-- A head: what stands before the first dot, and what stands behind each dot. -/
structure Head where
  first : Option String
  more : List (Option String)
  deriving DecidableEq, Repr

/-- The tokens of a part: its word, if it has one. -/
def partTokens (part : Option String) : List Token := part.toList.map .word

def dottedTokens (parts : List (Option String)) : List Token :=
  parts.flatMap fun part => .moduleDelimiter :: partTokens part

namespace Head

def tokens (head : Head) : List Token := partTokens head.first ++ dottedTokens head.more

/-- The number of dots. -/
def dots (head : Head) : Nat := head.more.length

/-- The texts between the dots, empty where there is no word. -/
def parts (head : Head) : List String := (head.first :: head.more).map (·.getD "")

end Head

variable {tokens rest others : List Token} {head other : Head}
variable {part : Option String} {parts : List (Option String)} {text : String}

@[simp]
theorem dottedTokens_nil : dottedTokens [] = [] := rfl

@[simp]
theorem dottedTokens_none : dottedTokens (none :: parts) = .moduleDelimiter :: dottedTokens parts :=
  rfl

@[simp]
theorem dottedTokens_some :
    dottedTokens (some text :: parts) = .moduleDelimiter :: .word text :: dottedTokens parts := rfl

section Taking

/-- The parts that are taken are what the tokens begin with. -/
theorem exists_takeParts (tokens : List Token) : ∃ parts,
    tokens = dottedTokens parts ++ (takeParts tokens).2 ∧
    (takeParts tokens).1 = parts.map (·.getD "") ∧
    (takeParts tokens).2.head? ≠ some .moduleDelimiter := by
  fun_induction takeParts tokens with
  | case1 text tokens taken rest takenEq ih =>
      obtain ⟨parts, tokensEq, textsEq, ends⟩ := ih
      rw [takenEq] at tokensEq textsEq ends
      refine ⟨some text :: parts, ?_, ?_, ends⟩
      · rw [dottedTokens_some, List.cons_append, List.cons_append, ← tokensEq]
      · rw [List.map_cons, ← textsEq]
        rfl
  | case2 tokens noWord taken rest takenEq ih =>
      obtain ⟨parts, tokensEq, textsEq, ends⟩ := ih
      rw [takenEq] at tokensEq textsEq ends
      refine ⟨none :: parts, ?_, ?_, ends⟩
      · rw [dottedTokens_none, List.cons_append, ← tokensEq]
      · rw [List.map_cons, ← textsEq]
        rfl
  | case3 tokens noWord noDot =>
      refine ⟨[], rfl, rfl, ?_⟩
      intro dot
      obtain ⟨rest, rfl⟩ := List.head?_eq_some_iff.1 dot
      exact noDot rest rfl

theorem length_takeParts_le (tokens : List Token) :
    (takeParts tokens).2.length ≤ tokens.length := by
  obtain ⟨parts, tokensEq, -, -⟩ := exists_takeParts tokens
  have lengthEq := congrArg List.length tokensEq
  rw [List.length_append] at lengthEq
  omega

theorem length_takeParts_dot_le (tokens : List Token) :
    (takeParts (.moduleDelimiter :: tokens)).2.length ≤ (takeParts tokens).2.length := by
  cases tokens with
  | nil => simp [takeParts]
  | cons token rest =>
      cases token with
      | word text =>
          have taken := length_takeParts_le rest
          simp only [takeParts, List.length_cons]
          omega
      | _ => simp [takeParts]

/-- No parts leave less than those that are taken. -/
theorem length_takeParts_dotted_le (parts : List (Option String)) (rest : List Token) :
    (takeParts (dottedTokens parts ++ rest)).2.length ≤ rest.length := by
  induction parts with
  | nil => exact length_takeParts_le rest
  | cons part parts ih =>
      cases part with
      | some text =>
          rw [dottedTokens_some, List.cons_append, List.cons_append, takeParts]
          exact ih
      | none =>
          rw [dottedTokens_none, List.cons_append]
          exact Nat.le_trans (length_takeParts_dot_le _) ih

end Taking

section Longest

/-- What stands behind a part is a dot, so the tokens tell the parts. -/
theorem partTokens_append_inj {otherPart : Option String} {otherParts : List (Option String)}
    (same : partTokens part ++ dottedTokens parts =
      partTokens otherPart ++ dottedTokens otherParts) :
    part = otherPart ∧ dottedTokens parts = dottedTokens otherParts := by
  have notWord (text : String) (rest : List Token) (parts : List (Option String)) :
      dottedTokens parts ≠ .word text :: rest := by
    rcases parts with _ | ⟨_ | _, _⟩ <;> simp
  cases part with
  | none =>
      cases otherPart with
      | none => exact ⟨rfl, same⟩
      | some text => exact (notWord _ _ _ same).elim
  | some text =>
      cases otherPart with
      | none => exact (notWord _ _ _ same.symm).elim
      | some otherText =>
          obtain ⟨textEq, partsEq⟩ := List.cons.inj same
          exact ⟨congrArg some (Token.word.inj textEq), partsEq⟩

theorem dottedTokens_inj {otherParts : List (Option String)}
    (same : dottedTokens parts = dottedTokens otherParts) : parts = otherParts := by
  induction parts generalizing otherParts with
  | nil =>
      cases otherParts with
      | nil => rfl
      | cons otherPart otherParts => cases same
  | cons part parts ih =>
      cases otherParts with
      | nil => cases same
      | cons otherPart otherParts =>
          obtain ⟨partEq, partsEq⟩ := partTokens_append_inj (List.cons.inj same).2
          rw [partEq, ih partsEq]

theorem Head.dot_tokens (head : Head) :
    .moduleDelimiter :: head.tokens = dottedTokens (head.first :: head.more) := rfl

theorem Head.tokens_inj (same : head.tokens = other.tokens) : head = other := by
  have dottedEq := congrArg (Token.moduleDelimiter :: ·) same
  simp only [Head.dot_tokens] at dottedEq
  obtain ⟨firstEq, moreEq⟩ := List.cons.inj (dottedTokens_inj dottedEq)
  cases head
  cases other
  cases firstEq
  cases moreEq
  rfl

/-- The longest head that tokens begin with, and what follows it. -/
structure Longest (tokens : List Token) (head : Head) (rest : List Token) : Prop where
  tokensEq : tokens = head.tokens ++ rest
  longest : ∀ (other : Head) (others : List Token), tokens = other.tokens ++ others →
    other.tokens.length ≤ head.tokens.length

theorem Longest.unique (longest : Longest tokens head rest) (again : Longest tokens other others) :
    head = other ∧ rest = others := by
  have lengthEq : head.tokens.length = other.tokens.length := by
    apply Nat.le_antisymm
    · exact again.longest head rest longest.tokensEq
    · exact longest.longest other others again.tokensEq
  obtain ⟨headEq, restEq⟩ :=
    List.append_inj (longest.tokensEq.symm.trans again.tokensEq) lengthEq
  exact ⟨Head.tokens_inj headEq, restEq⟩

/-- A first part is taken like one behind a dot. -/
theorem takeParts_dot (tokens : List Token) : takeParts (.moduleDelimiter :: tokens) =
    ((takeWord tokens).1 :: (takeParts (takeWord tokens).2).1,
      (takeParts (takeWord tokens).2).2) := by
  cases tokens with
  | nil => rfl
  | cons token rest => cases token <;> rfl

/-- The texts that splitting takes are those of the longest head. -/
theorem exists_longest (tokens : List Token) : ∃ head,
    Longest tokens head (takeParts (takeWord tokens).2).2 ∧
    (takeWord tokens).1 :: (takeParts (takeWord tokens).2).1 = head.parts ∧
    (takeParts (takeWord tokens).2).2.head? ≠ some .moduleDelimiter := by
  obtain ⟨parts, tokensEq, textsEq, ends⟩ := exists_takeParts (.moduleDelimiter :: tokens)
  have least (other : Head) (others : List Token) (otherEq : tokens = other.tokens ++ others) :
      (takeParts (.moduleDelimiter :: tokens)).2.length ≤ others.length := by
    rw [otherEq, ← List.cons_append, other.dot_tokens]
    exact length_takeParts_dotted_le _ others
  rw [takeParts_dot] at tokensEq textsEq ends least
  cases parts with
  | nil => cases textsEq
  | cons first more =>
      have headEq : tokens = (Head.mk first more).tokens ++ (takeParts (takeWord tokens).2).2 :=
        (List.cons.inj tokensEq).2
      refine ⟨⟨first, more⟩, ⟨headEq, ?_⟩, textsEq, ends⟩
      intro other others otherEq
      have restLe : (takeParts (takeWord tokens).2).2.length ≤ others.length :=
        least other others otherEq
      have lengthEq := congrArg List.length (headEq.symm.trans otherEq)
      simp only [List.length_append] at lengthEq
      omega

end Longest

section Splitting

/-- The tokens begin with a special token other than a dot. -/
def Unexpected (tokens : List Token) (token : Token) : Prop :=
  tokens.head? = some token ∧ token.isWord = false ∧ token ≠ .moduleDelimiter

theorem split_of_unexpected {token : Token} (unexpected : Unexpected tokens token) :
    split tokens = .error (.unexpectedToken token.text) := by
  obtain ⟨begins, noWord, noDot⟩ := unexpected
  obtain ⟨rest, rfl⟩ := List.head?_eq_some_iff.1 begins
  cases token with
  | word => cases noWord
  | moduleDelimiter => exact absurd rfl noDot
  | _ => rfl

theorem split_of_longest (expected : ∀ token, ¬ Unexpected tokens token)
    (longest : Longest tokens head rest) :
    split tokens = (do
      let name ← ofParts head.parts
      return (name, rest)) := by
  obtain ⟨other, otherLongest, partsEq, -⟩ := exists_longest tokens
  obtain ⟨rfl, rfl⟩ := longest.unique otherLongest
  rw [← partsEq]
  cases tokens with
  | nil => rfl
  | cons token rest =>
      cases token with
      | word | moduleDelimiter => rfl
      | _ => exact absurd ⟨rfl, rfl, nofun⟩ (expected _)

/-- What splitting makes of a head. -/
structure SplitsOff (tokens : List Token) (head : Head) (rest : List Token) : Prop where
  bare : head.dots = 0 → split tokens = .ok (.bare (head.first.getD ""), rest)
  qualified : ∀ module command, head = ⟨some module, [some command]⟩ → module ≠ "" →
    command ≠ "" → split tokens = .ok (.qualified module command, rest)
  malformed : head.dots ≠ 0 →
    (∀ module command, head = ⟨some module, [some command]⟩ → module = "" ∨ command = "") →
      split tokens = .error (.malformedQualifiedName (".".intercalate head.parts))

theorem ofParts_of_empty {module command : String} (empty : module = "" ∨ command = "") :
    ofParts [module, command] =
      .error (.malformedQualifiedName (".".intercalate [module, command])) := by
  rw [ofParts, if_pos]
  simpa using empty

theorem splitsOff_of_longest (expected : ∀ token, ¬ Unexpected tokens token)
    (longest : Longest tokens head rest) : SplitsOff tokens head rest := by
  have splitEq := split_of_longest expected longest
  constructor
  · intro noDot
    obtain ⟨first, more⟩ := head
    obtain rfl : more = [] := List.eq_nil_of_length_eq_zero noDot
    exact splitEq
  · rintro module command rfl moduleNonempty commandNonempty
    have named : ofParts [module, command] = .ok (.qualified module command) := by
      simp [ofParts, moduleNonempty, commandNonempty]
    have partsEq : (Head.mk (some module) [some command]).parts = [module, command] := rfl
    rw [splitEq, partsEq, named]
    rfl
  · intro dotted incomplete
    have unnamed : ofParts head.parts =
        .error (.malformedQualifiedName (".".intercalate head.parts)) := by
      obtain ⟨first, more⟩ := head
      rcases more with _ | ⟨second, _ | ⟨third, more⟩⟩
      · exact absurd rfl dotted
      · have empty : first.getD "" = "" ∨ second.getD "" = "" := by
          cases first with
          | none => exact .inl rfl
          | some module =>
              cases second with
              | none => exact .inr rfl
              | some command => exact incomplete module command rfl
        exact ofParts_of_empty empty
      · rfl
    rw [splitEq, unnamed]
    rfl

theorem error_of_ofParts {texts : List String} {error : ShellError}
    (fails : ofParts texts = .error error) :
    error = .malformedQualifiedName (".".intercalate texts) := by
  unfold ofParts at fails
  split at fails
  · cases fails
  · split at fails <;> cases fails
    rfl
  · cases fails
    rfl

/-- How the name is split off the tokens of a line. -/
structure SplitsHead (tokens : List Token) : Prop where
  unexpected : ∀ text, split tokens = .error (.unexpectedToken text) ↔
    ∃ token, Unexpected tokens token ∧ token.text = text
  longest : ∃ head rest, Longest tokens head rest ∧
    ∀ other others, Longest tokens other others → other = head ∧ others = rest
  splitsOff : (∀ token, ¬ Unexpected tokens token) → ∀ head rest, Longest tokens head rest →
    SplitsOff tokens head rest
  /-- Nothing is lost, and what is left does not go on with a dot. -/
  rest : ∀ name rest, split tokens = .ok (name, rest) →
    rest.head? ≠ some .moduleDelimiter ∧ ∃ head, Longest tokens head rest

theorem splits_longest_head (tokens : List Token) : SplitsHead tokens := by
  obtain ⟨head, longest, -, ends⟩ := exists_longest tokens
  constructor
  · intro text
    constructor
    · intro fails
      by_cases unexpected : ∃ token, Unexpected tokens token
      · obtain ⟨token, unexpected⟩ := unexpected
        cases (split_of_unexpected unexpected).symm.trans fails
        exact ⟨token, unexpected, rfl⟩
      · rw [split_of_longest (not_exists.1 unexpected) longest] at fails
        rcases bind_eq_error_iff.1 fails with unnamed | ⟨_, -, ⟨⟩⟩
        cases error_of_ofParts unnamed
    · rintro ⟨token, unexpected, rfl⟩
      exact split_of_unexpected unexpected
  · exact ⟨head, _, longest, fun other others again => again.unique longest⟩
  · intro expected head rest longest
    exact splitsOff_of_longest expected longest
  · intro name rest splits
    by_cases unexpected : ∃ token, Unexpected tokens token
    · obtain ⟨token, unexpected⟩ := unexpected
      cases (split_of_unexpected unexpected).symm.trans splits
    · rw [split_of_longest (not_exists.1 unexpected) longest] at splits
      obtain ⟨_, -, ⟨⟩⟩ := bind_eq_ok_iff.1 splits
      exact ⟨ends, head, longest⟩

/-- A word that is missing between two dots makes the name malformed. -/
example : split [.word "a", .moduleDelimiter, .moduleDelimiter, .word "b", .flagMarker] =
    .error (.malformedQualifiedName "a..b") := rfl

end Splitting

end CommandName
end CommandShell
