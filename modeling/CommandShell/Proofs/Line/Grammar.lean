import CommandShell.Bundle.Reader

/-!
# The grammar of bundles

An `ItemForm` is an item as it can be typed, and `ItemForm.add?` says what it adds to
a bundle.  The reader takes exactly the sequences of such forms: `readItems_eq_ok_iff`
is what the rest of the theory uses of it.
-/

namespace CommandShell
namespace Bundle

/-- A value as it is typed: `value := '^' | '-'? word ('.' word)*`. -/
inductive ValueForm where
  | previous
  | raw (negative : Bool) (first : String) (more : List String)
  deriving DecidableEq, Repr

/-- The tokens of the words that follow in a value, each behind a dot. -/
def dotted (parts : List String) : List Token :=
  parts.flatMap fun part => [.moduleDelimiter, .word part]

namespace ValueForm

def tokens : ValueForm → List Token
  | previous => [.previousOutput]
  | raw false first more => .word first :: dotted more
  | raw true first more => .flagMarker :: .word first :: dotted more

/-- The value that a form stands for, which `^` has only after an output. -/
def denote? (previousOutput : Option Value) : ValueForm → Option Value
  | previous => previousOutput
  | raw negative first more =>
      let first := if negative then "-" ++ first else first
      some (.ofRaw (".".intercalate (first :: more)))

end ValueForm

/-- The tokens of the values that follow in an argument, each behind a comma. -/
def separated (forms : List ValueForm) : List Token :=
  forms.flatMap fun form => .separator :: form.tokens

/-- One value stands for itself, two or more for a list. -/
def gather (first : Value) (more : List Value) : Value :=
  if more.isEmpty then first else .list (first :: more)

/-- Set a flag. -/
def withFlag (bundle : Bundle) (name : String) : Bundle :=
  { bundle with flags := bundle.flags.insert name () }

/-- Append an argument. -/
def withArgument (bundle : Bundle) (name : String) (value : Value) : Bundle :=
  { bundle with arguments := bundle.arguments ++ [(name, value)] }

/-- An item as it is typed: `item := '-' '-'? word | word '=' value (',' value)*`. -/
inductive ItemForm where
  | flag (doubled : Bool) (name : String)
  | keyed (name : String) (first : ValueForm) (more : List ValueForm)
  deriving DecidableEq, Repr

namespace ItemForm

def tokens : ItemForm → List Token
  | flag false name => [.flagMarker, .word name]
  | flag true name => [.flagMarker, .flagMarker, .word name]
  | keyed name first more =>
      .word name :: .assign :: (first.tokens ++ separated more)

/-- The bundle that an item makes of another one, if it may follow there. -/
def add? (previousOutput : Option Value) (bundle : Bundle) :
    ItemForm → Option Bundle
  | flag _ name => if name.isEmpty then none else some (bundle.withFlag name)
  | keyed name first more => do
      let value ← first.denote? previousOutput
      let values ← more.mapM (·.denote? previousOutput)
      if bundle.hasArgument name then none
      else some (bundle.withArgument name (gather value values))

end ItemForm

section Bundles

variable {bundle : Bundle}

theorem eq_of_hasFlag {first second : Bundle}
    (flags : ∀ name, first.hasFlag name = true ↔ second.hasFlag name = true)
    (arguments : first.arguments = second.arguments) : first = second := by
  have flagsEq : first.flags = second.flags := by
    refine NameMap.ext_find? fun name => ?_
    have same := flags name
    rw [hasFlag, hasFlag, NameMap.contains, NameMap.contains] at same
    cases inFirst : first.flags.find? name <;>
      cases inSecond : second.flags.find? name <;> simp_all
  cases first
  cases second
  cases flagsEq
  cases arguments
  rfl

@[simp]
theorem hasFlag_withFlag (name flag : String) :
    (bundle.withFlag name).hasFlag flag = true ↔
      flag = name ∨ bundle.hasFlag flag = true := by
  simp only [hasFlag, withFlag, NameMap.contains, NameMap.find?_insert]
  split <;> simp_all

@[simp]
theorem hasFlag_withArgument (name flag : String) (value : Value) :
    (bundle.withArgument name value).hasFlag flag = bundle.hasFlag flag := rfl

@[simp]
theorem hasArgument_withArgument (name argument : String) (value : Value) :
    (bundle.withArgument name value).hasArgument argument =
      (bundle.hasArgument argument || name == argument) := by
  simp [hasArgument, withArgument]

theorem hasArgument_eq_false_iff {name : String} :
    bundle.hasArgument name = false ↔ name ∉ bundle.arguments.map (·.1) := by
  simp only [hasArgument, List.any_eq_false, beq_iff_eq, List.mem_map, not_exists,
    not_and]

end Bundles

variable {previous : Option Value} {name : String} {tokens rest : List Token}

section Values

theorem dotted_cons (part : String) (parts : List String) :
    dotted (part :: parts) = .moduleDelimiter :: .word part :: dotted parts := rfl

theorem intercalate_joined (text part : String) (parts : List String) :
    ".".intercalate ((text ++ "." ++ part) :: parts) =
      ".".intercalate (text :: part :: parts) := by
  rw [String.intercalate_cons_cons, String.intercalate_cons_append]

theorem parts_of_joinDotted (text : String) (tokens : List Token) :
    ∃ parts, tokens = dotted parts ++ (joinDotted text tokens).2.1 ∧
      (joinDotted text tokens).1 = ".".intercalate (text :: parts) := by
  fun_induction joinDotted text tokens with
  | case1 text part rest joined after joinedEq ih =>
      obtain ⟨parts, restEq, textEq⟩ := ih
      rw [joinedEq] at restEq textEq
      refine ⟨part :: parts, ?_, ?_⟩
      · rw [dotted_cons, List.cons_append, List.cons_append, ← restEq]
      · rw [← intercalate_joined, ← textEq]
  | case2 text tokens unequal =>
      exact ⟨[], rfl, String.intercalate_singleton.symm⟩

theorem joinDotted_dotted (text : String) (parts : List String)
    (ends : rest.head? ≠ some .moduleDelimiter) :
    ∃ shorter, joinDotted text (dotted parts ++ rest) =
      (".".intercalate (text :: parts), ⟨rest, shorter⟩) := by
  induction parts generalizing text with
  | nil =>
      refine ⟨Nat.le_refl _, ?_⟩
      rw [String.intercalate_singleton]
      change joinDotted text rest = _
      unfold joinDotted
      split
      · cases ends rfl
      · rfl
  | cons part parts ih =>
      obtain ⟨shorter, joinedEq⟩ := ih (text ++ "." ++ part)
      rw [intercalate_joined] at joinedEq
      refine ⟨Nat.le_succ_of_le (Nat.le_succ_of_le shorter), ?_⟩
      change joinDotted text (.moduleDelimiter :: .word part :: (dotted parts ++ rest)) = _
      rw [joinDotted, joinedEq]
      rfl

theorem form_of_readValue {value : Value} {after : { rest : List Token //
    rest.length < tokens.length }}
    (taken : readValue previous name tokens = .ok (value, after)) :
    ∃ form : ValueForm, tokens = form.tokens ++ after.1 ∧
      form.denote? previous = some value := by
  unfold readValue at taken
  split at taken
  · split at taken
    · cases taken
      exact ⟨.previous, rfl, rfl⟩
    · cases taken
  · next text rest =>
      obtain ⟨parts, restEq, textEq⟩ := parts_of_joinDotted text rest
      cases taken
      refine ⟨.raw false text parts, ?_, ?_⟩
      · rw [ValueForm.tokens, List.cons_append, ← restEq]
      · simp [ValueForm.denote?, textEq]
  · next text rest =>
      obtain ⟨parts, restEq, textEq⟩ := parts_of_joinDotted ("-" ++ text) rest
      cases taken
      refine ⟨.raw true text parts, ?_, ?_⟩
      · rw [ValueForm.tokens, List.cons_append, List.cons_append, ← restEq]
      · simp [ValueForm.denote?, textEq]
  · cases taken

theorem readValue_form {form : ValueForm} {value : Value}
    (denotes : form.denote? previous = some value)
    (ends : rest.head? ≠ some .moduleDelimiter) :
    ∃ shorter, readValue previous name (form.tokens ++ rest) =
      .ok (value, ⟨rest, shorter⟩) := by
  cases form with
  | previous =>
      cases denotes
      exact ⟨Nat.lt_succ_self _, rfl⟩
  | raw negative first more =>
      cases denotes
      cases negative with
      | false =>
          obtain ⟨shorter, joinedEq⟩ := joinDotted_dotted first more ends
          refine ⟨Nat.lt_succ_of_le shorter, ?_⟩
          change readValue previous name (.word first :: (dotted more ++ rest)) = _
          rw [readValue, joinedEq]
          rfl
      | true =>
          obtain ⟨shorter, joinedEq⟩ := joinDotted_dotted ("-" ++ first) more ends
          refine ⟨Nat.lt_succ_of_lt (Nat.lt_succ_of_le shorter), ?_⟩
          change readValue previous name
            (.flagMarker :: .word first :: (dotted more ++ rest)) = _
          rw [readValue, joinedEq]
          rfl

theorem separated_cons (form : ValueForm) (forms : List ValueForm) :
    separated (form :: forms) = .separator :: (form.tokens ++ separated forms) := rfl

theorem head?_separated_append (forms : List ValueForm)
    (ends : rest.head? ≠ some .moduleDelimiter) :
    (separated forms ++ rest).head? ≠ some .moduleDelimiter := by
  cases forms with
  | nil => exact ends
  | cons form forms => simp [separated_cons]

theorem forms_of_readMoreValues {values : List Value}
    {after : { rest : List Token // rest.length ≤ tokens.length }}
    (taken : readMoreValues previous name tokens = .ok (values, after)) :
    ∃ forms, tokens = separated forms ++ after.1 ∧
      forms.mapM (·.denote? previous) = some values := by
  fun_induction readMoreValues previous name tokens generalizing values with
  | case1 tokens ih =>
      obtain ⟨⟨value, rest⟩, valueTaken, continued⟩ := bind_eq_ok_iff.1 taken
      obtain ⟨⟨more, final⟩, moreTaken, ⟨⟩⟩ := bind_eq_ok_iff.1 continued
      obtain ⟨form, tokensEq, valueEq⟩ := form_of_readValue valueTaken
      obtain ⟨forms, restEq, moreEq⟩ := ih rest moreTaken
      refine ⟨form :: forms, ?_, ?_⟩
      · rw [separated_cons, List.cons_append, List.append_assoc, ← restEq, ← tokensEq]
      · simp [valueEq, moreEq]
  | case2 tokens unseparated =>
      cases taken
      exact ⟨[], rfl, rfl⟩

theorem readMoreValues_forms {forms : List ValueForm} {values : List Value}
    (denote : forms.mapM (·.denote? previous) = some values)
    (ends : rest.head? ≠ some .moduleDelimiter)
    (last : rest.head? ≠ some .separator) :
    ∃ shorter, readMoreValues previous name (separated forms ++ rest) =
      .ok (values, ⟨rest, shorter⟩) := by
  induction forms generalizing values with
  | nil =>
      cases denote
      refine ⟨Nat.le_refl _, ?_⟩
      change readMoreValues previous name rest = _
      unfold readMoreValues
      split
      · cases last rfl
      · rfl
  | cons form forms ih =>
      rw [List.mapM_cons] at denote
      obtain ⟨value, valueEq, denote⟩ := Option.bind_eq_some_iff.1 denote
      obtain ⟨more, moreEq, ⟨⟩⟩ := Option.bind_eq_some_iff.1 denote
      have valueEnds : (separated forms ++ rest).head? ≠ some .moduleDelimiter :=
        head?_separated_append forms ends
      obtain ⟨shorter, valueTaken⟩ := readValue_form valueEq valueEnds
      obtain ⟨shorterStill, moreTaken⟩ := ih moreEq
      rw [separated_cons, List.cons_append, List.append_assoc]
      refine ⟨Nat.le_succ_of_le (Nat.le_trans shorterStill (Nat.le_of_lt shorter)), ?_⟩
      rw [readMoreValues]
      refine bind_eq_ok_iff.2 ⟨_, valueTaken, ?_⟩
      exact bind_eq_ok_iff.2 ⟨_, moreTaken, rfl⟩

theorem forms_of_readValues {value : Value}
    {after : { rest : List Token // rest.length < tokens.length }}
    (taken : readValues previous name tokens = .ok (value, after)) :
    ∃ (form : ValueForm) (forms : List ValueForm) (first : Value) (more : List Value),
      tokens = form.tokens ++ separated forms ++ after.1 ∧
      form.denote? previous = some first ∧
      forms.mapM (·.denote? previous) = some more ∧ value = gather first more := by
  obtain ⟨⟨first, rest⟩, firstTaken, continued⟩ := bind_eq_ok_iff.1 taken
  obtain ⟨⟨more, final⟩, moreTaken, ⟨⟩⟩ := bind_eq_ok_iff.1 continued
  obtain ⟨form, tokensEq, firstEq⟩ := form_of_readValue firstTaken
  obtain ⟨forms, restEq, moreEq⟩ := forms_of_readMoreValues moreTaken
  refine ⟨form, forms, first, more, ?_, firstEq, moreEq, rfl⟩
  rw [List.append_assoc, ← restEq, ← tokensEq]

theorem readValues_forms (name : String) {form : ValueForm} {forms : List ValueForm}
    {first : Value} {more : List Value} (denotes : form.denote? previous = some first)
    (denote : forms.mapM (·.denote? previous) = some more)
    (ends : rest.head? ≠ some .moduleDelimiter)
    (last : rest.head? ≠ some .separator) :
    ∃ shorter, readValues previous name (form.tokens ++ separated forms ++ rest) =
      .ok (gather first more, ⟨rest, shorter⟩) := by
  have firstEnds : (separated forms ++ rest).head? ≠ some .moduleDelimiter :=
    head?_separated_append forms ends
  rw [List.append_assoc]
  obtain ⟨shorter, firstTaken⟩ := readValue_form denotes firstEnds
  obtain ⟨shorterStill, moreTaken⟩ := readMoreValues_forms denote ends last
  refine ⟨Nat.lt_of_le_of_lt shorterStill shorter, ?_⟩
  refine bind_eq_ok_iff.2 ⟨_, firstTaken, ?_⟩
  exact bind_eq_ok_iff.2 ⟨_, moreTaken, rfl⟩

end Values

section Flags

theorem flag_of_named {flag found : String} {shorter : rest.length < tokens.length}
    {after : { rest : List Token // rest.length < tokens.length }}
    (taken : readFlag.named flag rest shorter = .ok (found, after)) :
    flag.isEmpty = false ∧ found = flag ∧ after.1 = rest := by
  unfold readFlag.named at taken
  split at taken
  · cases taken
  · next nonempty =>
      cases taken
      exact ⟨Bool.eq_false_iff.2 nonempty, rfl, rfl⟩

theorem flag_of_readFlag {flag : String}
    {after : { rest : List Token // rest.length < tokens.length }}
    (taken : readFlag tokens = .ok (flag, after)) :
    flag.isEmpty = false ∧ ∃ doubled,
      .flagMarker :: tokens = (ItemForm.flag doubled flag).tokens ++ after.1 := by
  unfold readFlag at taken
  split at taken
  · split at taken
    · cases taken
    · obtain ⟨nonempty, rfl, restEq⟩ := flag_of_named taken
      exact ⟨nonempty, true, by rw [restEq]; rfl⟩
    · cases taken
  · cases taken
  · obtain ⟨nonempty, rfl, restEq⟩ := flag_of_named taken
    exact ⟨nonempty, false, by rw [restEq]; rfl⟩
  · cases taken

theorem readFlag_flag {flag : String} (doubled : Bool) (rest : List Token)
    (nonempty : flag.isEmpty = false) :
    ∃ tokens shorter, (ItemForm.flag doubled flag).tokens ++ rest =
      .flagMarker :: tokens ∧ readFlag tokens = .ok (flag, ⟨rest, shorter⟩) := by
  have named {tokens : List Token} (shorter : rest.length < tokens.length) :
      readFlag.named flag rest shorter = .ok (flag, ⟨rest, shorter⟩) := by
    rw [readFlag.named, nonempty]
    rfl
  cases doubled with
  | false => exact ⟨.word flag :: rest, Nat.lt_succ_self _, rfl, named _⟩
  | true =>
      exact ⟨.flagMarker :: .word flag :: rest,
        Nat.lt_succ_of_lt (Nat.lt_succ_self _), rfl, named _⟩

end Flags

section Items

variable {bundle result : Bundle}

theorem add?_flag_eq_some_iff {doubled : Bool} :
    ItemForm.add? previous bundle (.flag doubled name) = some result ↔
      name.isEmpty = false ∧ bundle.withFlag name = result := by
  cases empty : name.isEmpty <;> simp [ItemForm.add?, empty]

theorem add?_keyed_eq_some_iff {first : ValueForm} {more : List ValueForm} :
    ItemForm.add? previous bundle (.keyed name first more) = some result ↔
      ∃ value values, first.denote? previous = some value ∧
        more.mapM (·.denote? previous) = some values ∧
        bundle.hasArgument name = false ∧
        bundle.withArgument name (gather value values) = result := by
  cases used : bundle.hasArgument name <;>
    simp [ItemForm.add?, used, Option.bind_eq_some_iff]

theorem items_of_readItems (taken : readItems previous bundle tokens = .ok result) :
    ∃ items : List ItemForm, tokens = items.flatMap ItemForm.tokens ∧
      items.foldlM (ItemForm.add? previous) bundle = some result := by
  fun_induction readItems previous bundle tokens with
  | case1 bundle =>
      cases taken
      exact ⟨[], rfl, rfl⟩
  | case2 bundle tokens ih =>
      obtain ⟨⟨flag, rest⟩, flagTaken, continued⟩ := bind_eq_ok_iff.1 taken
      obtain ⟨nonempty, doubled, tokensEq⟩ := flag_of_readFlag flagTaken
      obtain ⟨items, restEq, adds⟩ := ih flag rest continued
      have added : ItemForm.add? previous bundle (.flag doubled flag) =
          some (bundle.withFlag flag) := add?_flag_eq_some_iff.2 ⟨nonempty, rfl⟩
      refine ⟨.flag doubled flag :: items, ?_, ?_⟩
      · rw [List.flatMap_cons, ← restEq, ← tokensEq]
      · rw [List.foldlM_cons, added]
        exact adds
  | case3 bundle name tokens ih =>
      obtain ⟨⟨value, rest⟩, valueTaken, continued⟩ := bind_eq_ok_iff.1 taken
      obtain ⟨form, forms, first, more, tokensEq, firstEq, moreEq, rfl⟩ :=
        forms_of_readValues valueTaken
      dsimp only at continued
      split at continued
      · cases continued
      · next unused =>
          obtain ⟨items, restEq, adds⟩ := ih _ rest continued
          have added : ItemForm.add? previous bundle (.keyed name form forms) =
              some (bundle.withArgument name (gather first more)) :=
            add?_keyed_eq_some_iff.2 ⟨first, more, firstEq, moreEq,
              Bool.eq_false_iff.2 unused, rfl⟩
          refine ⟨.keyed name form forms :: items, ?_, ?_⟩
          · rw [List.flatMap_cons, ← restEq, ItemForm.tokens, List.cons_append,
              List.cons_append, ← tokensEq]
          · rw [List.foldlM_cons, added]
            exact adds
  | case4 => cases taken
  | case5 => cases taken

theorem head?_items (items : List ItemForm) :
    (items.flatMap ItemForm.tokens).head? ≠ some .moduleDelimiter ∧
      (items.flatMap ItemForm.tokens).head? ≠ some .separator := by
  cases items with
  | nil => simp
  | cons item items =>
      rw [List.flatMap_cons]
      cases item with
      | flag doubled name => cases doubled <;> simp [ItemForm.tokens]
      | keyed name first more => simp [ItemForm.tokens]

theorem readItems_items {items : List ItemForm}
    (adds : items.foldlM (ItemForm.add? previous) bundle = some result) :
    readItems previous bundle (items.flatMap ItemForm.tokens) = .ok result := by
  induction items generalizing bundle with
  | nil =>
      cases adds
      rw [List.flatMap_nil, readItems]
  | cons item items ih =>
      rw [List.foldlM_cons] at adds
      obtain ⟨extended, added, adds⟩ := Option.bind_eq_some_iff.1 adds
      have read := ih adds
      rw [List.flatMap_cons]
      cases item with
      | flag doubled flag =>
          obtain ⟨nonempty, rfl⟩ := add?_flag_eq_some_iff.1 added
          obtain ⟨tokens, shorter, tokensEq, flagTaken⟩ :=
            readFlag_flag doubled (items.flatMap ItemForm.tokens) nonempty
          rw [tokensEq, readItems]
          exact bind_eq_ok_iff.2 ⟨_, flagTaken, read⟩
      | keyed name form forms =>
          obtain ⟨first, more, firstEq, moreEq, unused, rfl⟩ :=
            add?_keyed_eq_some_iff.1 added
          obtain ⟨ends, last⟩ := head?_items items
          obtain ⟨shorter, valueTaken⟩ :=
            readValues_forms name firstEq moreEq ends last
          change readItems previous bundle (.word name :: .assign ::
            (form.tokens ++ separated forms ++ items.flatMap ItemForm.tokens)) = _
          rw [readItems]
          refine bind_eq_ok_iff.2 ⟨_, valueTaken, ?_⟩
          rw [unused]
          exact read

/-- The reader accepts the sequences of items of which each may follow those before
it, and its result is what they add up to. -/
theorem readItems_eq_ok_iff : readItems previous bundle tokens = .ok result ↔
    ∃ items : List ItemForm, tokens = items.flatMap ItemForm.tokens ∧
      items.foldlM (ItemForm.add? previous) bundle = some result := by
  constructor
  · exact items_of_readItems
  · rintro ⟨items, rfl, adds⟩
    exact readItems_items adds

end Items

end Bundle
end CommandShell
