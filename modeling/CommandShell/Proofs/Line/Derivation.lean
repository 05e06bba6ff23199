import CommandShell.Proofs.Line.Grammar

/-!
# Derivations of bundles

A sequence of items derives the tokens of a bundle if they are its written form and no
flag is left without a name.  Every token list has at most one derivation, since a
value ends where no dot follows and an item where neither a dot nor a comma does.

`Admissible` adds what the grammar does not say: the arguments have different names, and
`^` stands only where there is a previous output.  The bundle is then the one that the
derivation `Denotes`.
-/

namespace CommandShell
namespace Bundle

namespace ItemForm

/-- The name of a flag. -/
def flag? : ItemForm → Option String
  | flag _ name => some name
  | keyed .. => none

/-- The name of an argument. -/
def name? : ItemForm → Option String
  | flag .. => none
  | keyed name .. => some name

/-- The values of an argument as they are typed. -/
def values : ItemForm → List ValueForm
  | flag .. => []
  | keyed _ first more => first :: more

/-- The argument that an item stands for, if it is one and its values have a meaning. -/
def argument? (previousOutput : Option Value) : ItemForm → Option (String × Value)
  | flag .. => none
  | keyed name first more => do
      let value ← first.denote? previousOutput
      let values ← more.mapM (·.denote? previousOutput)
      return (name, gather value values)

end ItemForm

/-- Tokens derive from the grammar by a sequence of items. -/
structure Derives (items : List ItemForm) (tokens : List Token) : Prop where
  written : items.flatMap ItemForm.tokens = tokens
  named : ∀ doubled, .flag doubled "" ∉ items

/-- Arguments have different names, and there is a previous output if any of their
values is `^`. -/
structure Admissible (previous : Option Value) (items : List ItemForm) : Prop where
  names : (items.filterMap ItemForm.name?).Nodup
  previous : ∀ item ∈ items, .previous ∈ item.values → previous.isSome = true

/-- A bundle has the flags of items as a set, and the arguments that they stand for in
order. -/
structure Denotes (previous : Option Value) (items : List ItemForm) (bundle : Bundle) :
    Prop where
  flags : ∀ name, bundle.hasFlag name = true ↔ name ∈ items.filterMap ItemForm.flag?
  arguments : (items.filter (·.name?.isSome)).mapM (ItemForm.argument? previous) =
    some bundle.arguments

variable {previous : Option Value} {tokens rest after : List Token}

section Uniqueness

theorem dotted_append_inj {parts others : List String}
    (ends : rest.head? ≠ some .moduleDelimiter)
    (endsAfter : after.head? ≠ some .moduleDelimiter)
    (same : dotted parts ++ rest = dotted others ++ after) :
    parts = others ∧ rest = after := by
  induction parts generalizing others with
  | nil =>
      cases others with
      | nil => exact ⟨rfl, same⟩
      | cons other others =>
          have dot : rest = .moduleDelimiter :: .word other :: (dotted others ++ after) :=
            same
          rw [dot] at ends
          exact absurd rfl ends
  | cons part parts ih =>
      cases others with
      | nil =>
          have dot : .moduleDelimiter :: .word part :: (dotted parts ++ rest) = after :=
            same
          rw [← dot] at endsAfter
          exact absurd rfl endsAfter
      | cons other others =>
          simp only [dotted_cons, List.cons_append, List.cons.injEq, Token.word.injEq,
            true_and] at same
          obtain ⟨rfl, same⟩ := same
          obtain ⟨rfl, rfl⟩ := ih same
          exact ⟨rfl, rfl⟩

/-- A value ends where no dot follows. -/
theorem ValueForm.tokens_append_inj {form other : ValueForm}
    (ends : rest.head? ≠ some .moduleDelimiter)
    (endsAfter : after.head? ≠ some .moduleDelimiter)
    (same : form.tokens ++ rest = other.tokens ++ after) :
    form = other ∧ rest = after := by
  have joined {first second : String} {more others : List String}
      (same : Token.word first :: (dotted more ++ rest) =
        .word second :: (dotted others ++ after)) :
      first = second ∧ more = others ∧ rest = after := by
    simp only [List.cons.injEq, Token.word.injEq] at same
    exact ⟨same.1, dotted_append_inj ends endsAfter same.2⟩
  cases form with
  | previous =>
      cases other with
      | previous => exact ⟨rfl, (List.cons.inj same).2⟩
      | raw negative second others => cases negative <;> cases same
  | raw negative first more =>
      cases other with
      | previous => cases negative <;> cases same
      | raw negated second others =>
          cases negative <;> cases negated
          · obtain ⟨rfl, rfl, rfl⟩ := joined same
            exact ⟨rfl, rfl⟩
          · cases same
          · cases same
          · obtain ⟨rfl, rfl, rfl⟩ := joined (List.cons.inj same).2
            exact ⟨rfl, rfl⟩

theorem separated_append_inj {forms others : List ValueForm}
    (ends : rest.head? ≠ some .moduleDelimiter) (last : rest.head? ≠ some .separator)
    (endsAfter : after.head? ≠ some .moduleDelimiter)
    (lastAfter : after.head? ≠ some .separator)
    (same : separated forms ++ rest = separated others ++ after) :
    forms = others ∧ rest = after := by
  induction forms generalizing others with
  | nil =>
      cases others with
      | nil => exact ⟨rfl, same⟩
      | cons other others =>
          have comma : rest = .separator :: (other.tokens ++ separated others ++ after) :=
            same
          rw [comma] at last
          exact absurd rfl last
  | cons form forms ih =>
      cases others with
      | nil =>
          have comma : .separator :: (form.tokens ++ separated forms ++ rest) = after :=
            same
          rw [← comma] at lastAfter
          exact absurd rfl lastAfter
      | cons other others =>
          simp only [separated_cons, List.cons_append, List.append_assoc, List.cons.injEq,
            true_and] at same
          obtain ⟨rfl, moreSame⟩ := ValueForm.tokens_append_inj
            (head?_separated_append forms ends) (head?_separated_append others endsAfter)
            same
          obtain ⟨rfl, rfl⟩ := ih moreSame
          exact ⟨rfl, rfl⟩

/-- An item ends where neither a dot nor a comma follows. -/
theorem ItemForm.tokens_append_inj {item other : ItemForm}
    (ends : rest.head? ≠ some .moduleDelimiter) (last : rest.head? ≠ some .separator)
    (endsAfter : after.head? ≠ some .moduleDelimiter)
    (lastAfter : after.head? ≠ some .separator)
    (same : item.tokens ++ rest = other.tokens ++ after) :
    item = other ∧ rest = after := by
  cases item with
  | flag doubled name =>
      cases other with
      | flag twice named =>
          cases doubled <;> cases twice <;>
            simp [ItemForm.tokens] at same ⊢ <;> exact same
      | keyed name first more => cases doubled <;> cases same
  | keyed name first more =>
      cases other with
      | flag doubled name => cases doubled <;> cases same
      | keyed named start others =>
          simp only [ItemForm.tokens, List.cons_append, List.append_assoc,
            List.cons.injEq, Token.word.injEq, true_and] at same
          obtain ⟨rfl, valuesSame⟩ := same
          obtain ⟨rfl, moreSame⟩ := ValueForm.tokens_append_inj
            (head?_separated_append more ends) (head?_separated_append others endsAfter)
            valuesSame
          obtain ⟨rfl, rfl⟩ :=
            separated_append_inj ends last endsAfter lastAfter moreSame
          exact ⟨rfl, rfl⟩

/-- Two sequences of items with one written form are the same. -/
theorem flatMap_tokens_inj {items others : List ItemForm}
    (same : items.flatMap ItemForm.tokens = others.flatMap ItemForm.tokens) :
    items = others := by
  have nonempty (item : ItemForm) (tokens : List Token) : item.tokens ++ tokens ≠ [] := by
    cases item with
    | flag doubled name => cases doubled <;> simp [ItemForm.tokens]
    | keyed name first more => simp [ItemForm.tokens]
  induction items generalizing others with
  | nil =>
      cases others with
      | nil => rfl
      | cons other others => exact absurd same.symm (nonempty other _)
  | cons item items ih =>
      cases others with
      | nil => exact absurd same (nonempty item _)
      | cons other others =>
          obtain ⟨ends, last⟩ := head?_items items
          obtain ⟨endsAfter, lastAfter⟩ := head?_items others
          obtain ⟨rfl, moreSame⟩ :=
            ItemForm.tokens_append_inj ends last endsAfter lastAfter same
          rw [ih moreSame]

theorem Derives.unique {items others : List ItemForm} (derives : Derives items tokens)
    (again : Derives others tokens) : others = items :=
  flatMap_tokens_inj (again.written.trans derives.written.symm)

end Uniqueness

section Meaning

variable {bundle result : Bundle} {item : ItemForm} {items : List ItemForm}

theorem isSome_denote?_iff {form : ValueForm} :
    (form.denote? previous).isSome = true ↔
      (form = .previous → previous.isSome = true) := by
  cases form <;> simp [ValueForm.denote?]

theorem isSome_mapM_iff {α β : Type} {f : α → Option β} {list : List α} :
    (list.mapM f).isSome = true ↔ ∀ element ∈ list, (f element).isSome = true := by
  induction list with
  | nil => simp
  | cons element list ih =>
      rw [List.forall_mem_cons, ← ih, List.mapM_cons]
      cases f element with
      | none => simp
      | some result => cases list.mapM f <;> simp

theorem isSome_argument?_iff (isArgument : item.name?.isSome = true) :
    (item.argument? previous).isSome = true ↔
      (.previous ∈ item.values → previous.isSome = true) := by
  cases item with
  | flag doubled name => cases isArgument
  | keyed name first more =>
      have values : ((first :: more).mapM (ValueForm.denote? previous)).isSome = true ↔
          (.previous ∈ first :: more → previous.isSome = true) := by
        rw [isSome_mapM_iff]
        simp only [isSome_denote?_iff]
        exact ⟨fun each listed => each _ listed rfl,
          fun present form listed same => present (same ▸ listed)⟩
      rw [ItemForm.values, ← values, ItemForm.argument?, List.mapM_cons]
      cases first.denote? previous with
      | none => simp
      | some value => cases more.mapM (·.denote? previous) <;> simp

/-- What items make of a bundle if each of them may follow those before it. -/
structure Extends (previous : Option Value) (bundle : Bundle) (items : List ItemForm)
    (result : Bundle) : Prop where
  named : ∀ doubled, .flag doubled "" ∉ items
  names : (items.filterMap ItemForm.name?).Nodup
  fresh : ∀ name ∈ items.filterMap ItemForm.name?, bundle.hasArgument name = false
  flags : ∀ name, result.hasFlag name = true ↔
    bundle.hasFlag name = true ∨ name ∈ items.filterMap ItemForm.flag?
  arguments : ∃ added,
    (items.filter (·.name?.isSome)).mapM (ItemForm.argument? previous) = some added ∧
      result.arguments = bundle.arguments ++ added

theorem extends_nil_iff : Extends previous bundle [] result ↔ bundle = result := by
  constructor
  · rintro ⟨-, -, -, flags, added, ⟨⟩, argumentsEq⟩
    refine (eq_of_hasFlag (fun name => ?_) ?_).symm
    · simpa using flags name
    · simpa using argumentsEq
  · rintro rfl
    exact ⟨nofun, List.nodup_nil, nofun, by simp, [], rfl, (List.append_nil _).symm⟩

theorem extends_flag_iff {doubled : Bool} {name : String} :
    Extends previous bundle (.flag doubled name :: items) result ↔
      name ≠ "" ∧ Extends previous (bundle.withFlag name) items result := by
  have flagsIff (flag : String) :
      (bundle.withFlag name).hasFlag flag = true ∨
          flag ∈ items.filterMap ItemForm.flag? ↔
        bundle.hasFlag flag = true ∨
          flag ∈ (ItemForm.flag doubled name :: items).filterMap ItemForm.flag? := by
    have flagsEq : (ItemForm.flag doubled name :: items).filterMap ItemForm.flag? =
        name :: items.filterMap ItemForm.flag? := rfl
    rw [hasFlag_withFlag, flagsEq, List.mem_cons, or_assoc, or_left_comm]
  constructor
  · rintro ⟨named, names, fresh, flags, arguments⟩
    refine ⟨?_, fun other listed => named other (List.mem_cons_of_mem _ listed), names,
      fresh, fun flag => (flags flag).trans (flagsIff flag).symm, arguments⟩
    rintro rfl
    exact named doubled (List.mem_cons_self ..)
  · rintro ⟨nonempty, named, names, fresh, flags, arguments⟩
    refine ⟨fun other listed => ?_, names, fresh,
      fun flag => (flags flag).trans (flagsIff flag), arguments⟩
    rcases List.mem_cons.1 listed with same | listed
    · exact nonempty (ItemForm.flag.inj same).2.symm
    · exact named other listed

theorem argument?_eq_some_iff {name : String} {first : ValueForm}
    {more : List ValueForm} {argument : String × Value} :
    ItemForm.argument? previous (.keyed name first more) = some argument ↔
      ∃ value values, first.denote? previous = some value ∧
        more.mapM (·.denote? previous) = some values ∧
        (name, gather value values) = argument := by
  simp [ItemForm.argument?, Option.bind_eq_some_iff]

theorem extends_keyed_iff {name : String} {first : ValueForm} {more : List ValueForm} :
    Extends previous bundle (.keyed name first more :: items) result ↔
      ∃ value, ItemForm.argument? previous (.keyed name first more) = some (name, value) ∧
        bundle.hasArgument name = false ∧
        Extends previous (bundle.withArgument name value) items result := by
  have namesEq : (ItemForm.keyed name first more :: items).filterMap ItemForm.name? =
      name :: items.filterMap ItemForm.name? := rfl
  have argumentsEq :
      ((ItemForm.keyed name first more :: items).filter (·.name?.isSome)).mapM
          (ItemForm.argument? previous) = (do
        let argument ← ItemForm.argument? previous (.keyed name first more)
        let arguments ←
          (items.filter (·.name?.isSome)).mapM (ItemForm.argument? previous)
        return argument :: arguments) := List.mapM_cons
  constructor
  · rintro ⟨named, names, fresh, flags, added, addedEq, resultEq⟩
    rw [namesEq, List.nodup_cons] at names
    rw [namesEq, List.forall_mem_cons] at fresh
    rw [argumentsEq] at addedEq
    obtain ⟨argument, argumentEq, addedEq⟩ := Option.bind_eq_some_iff.1 addedEq
    obtain ⟨others, othersEq, ⟨⟩⟩ := Option.bind_eq_some_iff.1 addedEq
    obtain ⟨first, more, -, -, rfl⟩ := argument?_eq_some_iff.1 argumentEq
    refine ⟨_, argumentEq, fresh.1,
      fun doubled listed => named doubled (List.mem_cons_of_mem _ listed), names.2,
      fun other listed => ?_, flags, others, othersEq, ?_⟩
    · have different : name ≠ other := fun same => names.1 (same ▸ listed)
      simp [different, fresh.2 other listed]
    · rw [resultEq, withArgument, List.append_assoc]
      rfl
  · rintro ⟨value, argumentEq, unused, named, names, fresh, flags, added, addedEq, resultEq⟩
    have freshLater (other : String)
        (listed : other ∈ items.filterMap ItemForm.name?) :
        bundle.hasArgument other = false ∧ name ≠ other := by
      simpa using fresh other listed
    refine ⟨fun doubled listed => ?_, ?_, ?_, flags, (name, value) :: added, ?_, ?_⟩
    · exact named doubled ((List.mem_cons.1 listed).resolve_left (by simp))
    · rw [namesEq, List.nodup_cons]
      exact ⟨fun listed => (freshLater name listed).2 rfl, names⟩
    · rw [namesEq, List.forall_mem_cons]
      exact ⟨unused, fun other listed => (freshLater other listed).1⟩
    · rw [argumentsEq, argumentEq, addedEq]
      rfl
    · rw [resultEq, withArgument, List.append_assoc]
      rfl

theorem add?_eq_some_iff_argument? {name : String} {first : ValueForm}
    {more : List ValueForm} :
    ItemForm.add? previous bundle (.keyed name first more) = some result ↔
      ∃ value, ItemForm.argument? previous (.keyed name first more) = some (name, value) ∧
        bundle.hasArgument name = false ∧ bundle.withArgument name value = result := by
  rw [add?_keyed_eq_some_iff]
  simp only [argument?_eq_some_iff, Prod.mk.injEq, true_and]
  constructor
  · rintro ⟨value, values, valueEq, valuesEq, unused, resultEq⟩
    exact ⟨_, ⟨value, values, valueEq, valuesEq, rfl⟩, unused, resultEq⟩
  · rintro ⟨_, ⟨value, values, valueEq, valuesEq, rfl⟩, unused, resultEq⟩
    exact ⟨value, values, valueEq, valuesEq, unused, resultEq⟩

/-- Items are added one after the other exactly if together they make a bundle. -/
theorem foldlM_add?_eq_some_iff :
    items.foldlM (ItemForm.add? previous) bundle = some result ↔
      Extends previous bundle items result := by
  -- what the later items extend is not empty, so this cannot be about `Denotes`
  induction items generalizing bundle with
  | nil =>
      rw [extends_nil_iff]
      exact Option.some_inj
  | cons item items ih =>
      rw [List.foldlM_cons, Option.bind_eq_bind, Option.bind_eq_some_iff]
      cases item with
      | flag doubled name =>
          simp only [extends_flag_iff, add?_flag_eq_some_iff, ih]
          constructor
          · rintro ⟨_, ⟨nonempty, rfl⟩, later⟩
            exact ⟨by simpa using nonempty, later⟩
          · rintro ⟨nonempty, later⟩
            exact ⟨_, ⟨by simpa using nonempty, rfl⟩, later⟩
      | keyed name first more =>
          simp only [extends_keyed_iff, add?_eq_some_iff_argument?, ih]
          constructor
          · rintro ⟨_, ⟨value, valueEq, unused, rfl⟩, later⟩
            exact ⟨value, valueEq, unused, later⟩
          · rintro ⟨value, valueEq, unused, later⟩
            exact ⟨_, ⟨value, valueEq, unused, rfl⟩, later⟩

/-- Items make a bundle from nothing if no flag lacks a name and they are admissible,
and then it is the bundle that they denote. -/
theorem extends_empty_iff :
    Extends previous {} items result ↔
      (∀ doubled, .flag doubled "" ∉ items) ∧ Admissible previous items ∧
        Denotes previous items result := by
  have noFlag (name : String) : ¬ Bundle.hasFlag {} name = true := nofun
  constructor
  · rintro ⟨named, names, -, flags, added, addedEq, resultEq⟩
    rw [List.nil_append] at resultEq
    refine ⟨named, ⟨names, fun item listed used => ?_⟩,
      ⟨fun name => (flags name).trans (or_iff_right (noFlag name)), resultEq ▸ addedEq⟩⟩
    have isArgument : item.name?.isSome = true := by
      cases item with
      | flag doubled name => cases used
      | keyed name first more => rfl
    have present := isSome_mapM_iff.1 (Option.isSome_of_eq_some addedEq) item
      (List.mem_filter.2 ⟨listed, isArgument⟩)
    exact (isSome_argument?_iff isArgument).1 present used
  · rintro ⟨named, ⟨names, -⟩, flags, argumentsEq⟩
    exact ⟨named, names, fun _ _ => rfl,
      fun name => (flags name).trans (or_iff_right (noFlag name)).symm,
      _, argumentsEq, rfl⟩

theorem flags_foldl_withFlag (names : List String) (bundle : Bundle) :
    (∀ name, (names.foldl withFlag bundle).hasFlag name = true ↔
      bundle.hasFlag name = true ∨ name ∈ names) ∧
    (names.foldl withFlag bundle).arguments = bundle.arguments := by
  induction names generalizing bundle with
  | nil => simp
  | cons first names ih =>
      obtain ⟨flags, argumentsEq⟩ := ih (bundle.withFlag first)
      refine ⟨fun name => ?_, argumentsEq⟩
      rw [List.foldl_cons, flags, hasFlag_withFlag, List.mem_cons, or_assoc, or_left_comm]

theorem exists_denotes (admissible : Admissible previous items) :
    ∃ bundle, Denotes previous items bundle := by
  have present : ((items.filter (·.name?.isSome)).mapM
      (ItemForm.argument? previous)).isSome = true := by
    rw [isSome_mapM_iff]
    intro item listed
    obtain ⟨listed, isArgument⟩ := List.mem_filter.1 listed
    exact (isSome_argument?_iff isArgument).2 (admissible.previous item listed)
  obtain ⟨arguments, added⟩ := Option.isSome_iff_exists.1 present
  obtain ⟨flags, argumentsEq⟩ :=
    flags_foldl_withFlag (items.filterMap ItemForm.flag?) { arguments }
  have noFlag (name : String) : ¬ Bundle.hasFlag { arguments } name = true := nofun
  exact ⟨_, fun name => (flags name).trans (or_iff_right (noFlag name)),
    argumentsEq ▸ added⟩

/-- Tokens are read as the bundle that a derivation of them denotes. -/
theorem ofTokens_eq_ok_iff : ofTokens previous tokens = .ok bundle ↔
    ∃ items, Derives items tokens ∧ Admissible previous items ∧
      Denotes previous items bundle := by
  simp only [ofTokens, readItems_eq_ok_iff, foldlM_add?_eq_some_iff, extends_empty_iff]
  constructor
  · rintro ⟨items, written, named, means⟩
    exact ⟨items, ⟨written.symm, named⟩, means⟩
  · rintro ⟨items, ⟨written, named⟩, means⟩
    exact ⟨items, written.symm, named, means⟩

end Meaning

/-- The reader accepts exactly the tokens that have an admissible derivation.  There is
only one, and the bundle is the one that it denotes. -/
theorem ofTokens_eq_ok_iff_derives (previous : Option Value) (tokens : List Token) :
    ((∃ bundle, ofTokens previous tokens = .ok bundle) ↔
      ∃ items, Derives items tokens ∧ Admissible previous items) ∧
    ∀ items, Derives items tokens →
      (∀ others, Derives others tokens → others = items) ∧
      ∀ bundle, ofTokens previous tokens = .ok bundle ↔
        Admissible previous items ∧ Denotes previous items bundle := by
  constructor
  · constructor
    · rintro ⟨bundle, read⟩
      obtain ⟨items, derives, admissible, -⟩ := ofTokens_eq_ok_iff.1 read
      exact ⟨items, derives, admissible⟩
    · rintro ⟨items, derives, admissible⟩
      obtain ⟨bundle, denotes⟩ := exists_denotes admissible
      exact ⟨bundle, ofTokens_eq_ok_iff.2 ⟨items, derives, admissible, denotes⟩⟩
  · intro items derives
    refine ⟨fun others again => derives.unique again, fun bundle => ?_⟩
    constructor
    · intro read
      obtain ⟨others, again, means⟩ := ofTokens_eq_ok_iff.1 read
      rw [derives.unique again] at means
      exact means
    · intro means
      exact ofTokens_eq_ok_iff.2 ⟨items, derives, means⟩

/-- The items of `--f w=^,-1.5 -f n=-12`. -/
def mixedItems : List ItemForm :=
  [.flag true "f", .keyed "w" .previous [.raw true "1" ["5"]], .flag false "f",
    .keyed "n" (.raw true "12" []) []]

def mixedBundle : Bundle where
  flags := (∅ : NameSet).insert "f" ()
  arguments := [("w", .list [.plainText "7", .plainText "-1.5"]),
    ("n", .integer (-12))]

/-- A dash stands for a flag, for a flag once more, or for a sign, and the text `7` of
the previous output stays a text. -/
theorem ofTokens_of_mixed_items :
    mixedItems.flatMap ItemForm.tokens =
      [.flagMarker, .flagMarker, .word "f", .word "w", .assign, .previousOutput,
        .separator, .flagMarker, .word "1", .moduleDelimiter, .word "5", .flagMarker,
        .word "f", .word "n", .assign, .flagMarker, .word "12"] ∧
    Derives mixedItems (mixedItems.flatMap ItemForm.tokens) ∧
    Admissible (some (.plainText "7")) mixedItems ∧
    Denotes (some (.plainText "7")) mixedItems mixedBundle ∧
    ofTokens (some (.plainText "7")) (mixedItems.flatMap ItemForm.tokens) =
      .ok mixedBundle := by
  have derives : Derives mixedItems (mixedItems.flatMap ItemForm.tokens) :=
    ⟨rfl, by decide⟩
  have admissible : Admissible (some (.plainText "7")) mixedItems :=
    ⟨by decide, fun _ _ _ => rfl⟩
  have denotes : Denotes (some (.plainText "7")) mixedItems mixedBundle := by
    have noFlag (name : String) : (∅ : NameSet).find? name = none := rfl
    have flags : mixedItems.filterMap ItemForm.flag? = ["f", "f"] := rfl
    refine ⟨fun name => ?_, rfl⟩
    by_cases same : name = "f" <;>
      simp [flags, mixedBundle, hasFlag, NameMap.contains, noFlag, same]
  refine ⟨by decide, derives, admissible, denotes, ?_⟩
  exact (((ofTokens_eq_ok_iff_derives _ _).2 mixedItems derives).2 mixedBundle).2
    ⟨admissible, denotes⟩

end Bundle
end CommandShell
