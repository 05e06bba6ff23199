import CommandShell.Terminal

/-!
# What a terminal shows

Without colors a terminal shows the texts, integers and images in a value, each on a line of its
own, from left to right however deep they are.  With colors it shows the same between escape
sequences: if the texts themselves have no escape character, taking the sequences that select
colors out of the output leaves just the output without colors.
-/

namespace CommandShell

namespace Value

/-- The part of a value that a path leads to, each number of which picks an element of a list. -/
def at? (value : Value) : List Nat → Option Value
  | [] => some value
  | index :: path =>
      match value with
      | .list items => items[index]?.bind fun item => item.at? path
      | _ => .none

mutual

/-- The parts of a value that are not lists, with the paths that lead to them. -/
def leaves : Value → List (List Nat × Value)
  | .none => [([], .none)]
  | .text content color => [([], .text content color)]
  | .integer number => [([], .integer number)]
  | .image picture => [([], .image picture)]
  | .list items => leavesFrom 0 items

/-- The same for the elements of a list, the first of which has the index `index`. -/
def leavesFrom (index : Nat) : List Value → List (List Nat × Value)
  | [] => []
  | item :: rest =>
      (leaves item).map (fun leaf => (index :: leaf.1, leaf.2)) ++ leavesFrom (index + 1) rest

end

/-- All parts of a value that are not lists, in the order of the paths that lead to them. -/
structure Fringe (value : Value) (leaves : List (List Nat × Value)) : Prop where
  mem_iff : ∀ path leaf, (path, leaf) ∈ leaves ↔
    value.at? path = some leaf ∧ leaf.kind ≠ .list
  ordered : leaves.Pairwise fun leaf other => leaf.1 < other.1

theorem at?_of_not_list {value : Value} (notList : value.kind ≠ .list) (path : List Nat) :
    value.at? path = if path = [] then some value else .none := by
  cases path with
  | nil => rfl
  | cons index path =>
      cases value with
      | list items => exact absurd rfl notList
      | none | text | integer | image => rfl

theorem leaves_of_not_list {value : Value} (notList : value.kind ≠ .list) :
    value.leaves = [([], value)] := by
  cases value with
  | list items => exact absurd rfl notList
  | none | text | integer | image => rfl

theorem mem_iff_of_not_list {value : Value} (notList : value.kind ≠ .list) (path : List Nat)
    (leaf : Value) : (path, leaf) ∈ value.leaves ↔
      value.at? path = some leaf ∧ leaf.kind ≠ .list := by
  rw [leaves_of_not_list notList, at?_of_not_list notList, List.mem_singleton, Prod.mk.injEq]
  constructor
  · rintro ⟨rfl, rfl⟩
    exact ⟨rfl, notList⟩
  · rintro ⟨found, -⟩
    by_cases isRoot : path = []
    · rw [if_pos isRoot] at found
      exact ⟨isRoot, (Option.some.inj found).symm⟩
    · rw [if_neg isRoot] at found
      cases found

theorem cons_mem_leavesFrom_cons {index : Nat} {path : List Nat} {item leaf : Value}
    {rest : List Value} :
    (path, leaf) ∈ leavesFrom index (item :: rest) ↔
      (∃ inner, path = index :: inner ∧ (inner, leaf) ∈ item.leaves) ∨
        (path, leaf) ∈ leavesFrom (index + 1) rest := by
  rw [leavesFrom, List.mem_append, List.mem_map]
  refine or_congr_left ⟨?_, ?_⟩
  · rintro ⟨⟨inner, _⟩, member, ⟨⟩⟩
    exact ⟨inner, rfl, member⟩
  · rintro ⟨inner, rfl, member⟩
    exact ⟨(inner, leaf), member, rfl⟩

mutual

theorem mem_leaves_iff (path : List Nat) (leaf : Value) : (value : Value) →
    ((path, leaf) ∈ value.leaves ↔ value.at? path = some leaf ∧ leaf.kind ≠ .list)
  | .none | .text .. | .integer _ | .image _ => mem_iff_of_not_list (by rintro ⟨⟩) path leaf
  | .list items => by
      rw [leaves, mem_leavesFrom_iff]
      cases path with
      | nil =>
          constructor
          · rintro ⟨_, _, ⟨⟩, -⟩
          · rintro ⟨⟨⟩, notList⟩
            exact absurd rfl notList
      | cons index path =>
          constructor
          · rintro ⟨offset, inner, same, found, notList⟩
            rw [Nat.zero_add] at same
            cases same
            exact ⟨found, notList⟩
          · rintro ⟨found, notList⟩
            exact ⟨index, path, by rw [Nat.zero_add], found, notList⟩

theorem mem_leavesFrom_iff (index : Nat) (path : List Nat) (leaf : Value) :
    (items : List Value) → ((path, leaf) ∈ leavesFrom index items ↔
      ∃ offset inner, path = (index + offset) :: inner ∧
        (items[offset]?.bind (·.at? inner)) = some leaf ∧ leaf.kind ≠ .list)
  | [] => by simp [leavesFrom]
  | item :: rest => by
      simp only [cons_mem_leavesFrom_cons, mem_leavesFrom_iff (index + 1) path leaf rest,
        mem_leaves_iff _ leaf item]
      constructor
      · rintro (⟨inner, rfl, found⟩ | ⟨offset, inner, rfl, found⟩)
        · exact ⟨0, inner, rfl, found⟩
        · exact ⟨offset + 1, inner, by rw [Nat.add_right_comm, Nat.add_assoc], found⟩
      · rintro ⟨_ | offset, inner, rfl, found⟩
        · exact .inl ⟨inner, rfl, found⟩
        · exact .inr ⟨offset, inner, by rw [Nat.add_right_comm, Nat.add_assoc], found⟩

end

theorem lt_of_mem_leavesFrom {index : Nat} {items : List Value} {leaf : List Nat × Value}
    (member : leaf ∈ leavesFrom index items) :
    ∃ offset inner, leaf.1 = (index + offset) :: inner := by
  obtain ⟨offset, inner, pathEq, -⟩ := (mem_leavesFrom_iff index leaf.1 leaf.2 items).1 member
  exact ⟨offset, inner, pathEq⟩

mutual

theorem ordered_leaves : (value : Value) →
    value.leaves.Pairwise fun leaf other => leaf.1 < other.1
  | .none | .text .. | .integer _ | .image _ => List.pairwise_singleton _ _
  | .list items => ordered_leavesFrom 0 items

theorem ordered_leavesFrom (index : Nat) : (items : List Value) →
    (leavesFrom index items).Pairwise fun leaf other => leaf.1 < other.1
  | [] => .nil
  | item :: rest => by
      rw [leavesFrom, List.pairwise_append, List.pairwise_map]
      refine ⟨?_, ordered_leavesFrom (index + 1) rest, ?_⟩
      · exact (ordered_leaves item).imp fun less => List.cons_lt_cons_iff.2 (.inr ⟨rfl, less⟩)
      · intro leaf member other later
        obtain ⟨inner, -, rfl⟩ := List.mem_map.1 member
        obtain ⟨offset, path, pathEq⟩ := lt_of_mem_leavesFrom later
        rw [pathEq]
        exact List.cons_lt_cons_iff.2 (.inl (by omega))

end

theorem fringe_leaves (value : Value) : value.Fringe value.leaves where
  mem_iff path leaf := mem_leaves_iff path leaf value
  ordered := ordered_leaves value

end Value

namespace ShellError

/-- The texts that an error carries, those of its source included. -/
def texts : ShellError → List String
  | noSuchCommand text | noSuchModule text | malformedQualifiedName text | undefinedMacro text
  | ruleViolation text | unexpectedToken text | missingAssignment text | missingValue text
  | invalidFlag text | duplicateArgument text | macroExists text | noSuchMacro text | badUsage text
  | moduleLoadFailure text | missingArgument text | invalidCommandName text | panicked text
  | other text => [text]
  | resultTypeMismatch text _ _ => [text]
  | ambiguousCommand command modules => command :: modules
  | duplicateCommand module command => [module, command]
  | nested line source => line :: source.texts
  | danglingMacroMarker | unterminatedQuote | unterminatedEscape | noPreviousOutput | cancelled
  | wrongType .. | listType .. | callDepthExceeded _ => []

end ShellError

namespace Terminal

/-- A text without an escape character. -/
def Unescaped (text : String) : Prop := '\x1b' ∉ text.toList

section Unescaped

variable {first second : String}

@[simp]
theorem unescaped_append : Unescaped (first ++ second) ↔ Unescaped first ∧ Unescaped second := by
  simp [Unescaped]

/-- A fixed text is checked as a list of characters. -/
theorem unescaped_ofList {chars : List Char} (plain : '\x1b' ∉ chars) :
    Unescaped (String.ofList chars) := by
  rwa [Unescaped, String.toList_ofList]

theorem unescaped_intercalate {separator : String} (plain : Unescaped separator)
    {texts : List String} (all : ∀ text ∈ texts, Unescaped text) :
    Unescaped (separator.intercalate texts) := by
  induction texts with
  | nil => simp [Unescaped]
  | cons text texts ih =>
      rw [List.forall_mem_cons] at all
      cases texts with
      | nil => simpa using all.1
      | cons next texts =>
          rw [String.intercalate_cons_cons]
          simp [all.1, plain, ih all.2]

theorem unescaped_toString (number : Nat) : Unescaped (toString number) := by
  intro escape
  rw [Nat.toString_eq_ofList_toDigits, String.toList_ofList] at escape
  exact absurd (Nat.isDigit_of_mem_toDigits (by decide) (by decide) escape) (by decide)

theorem toString_string (text : String) : toString text = text := rfl

theorem unescaped_name (kind : Kind) : Unescaped kind.name := by
  cases kind <;> (unfold Unescaped; decide)

instance : DecidablePred Unescaped :=
  fun text => inferInstanceAs (Decidable ('\x1b' ∉ text.toList))

/-- A message is made of fixed texts, of names of kinds and of the texts that the error carries. -/
theorem unescaped_message {error : ShellError} (plain : ∀ text ∈ error.texts, Unescaped text) :
    Unescaped error.message := by
  induction error with
  | ambiguousCommand command modules =>
      obtain ⟨commandPlain, modulesPlain⟩ := List.forall_mem_cons.1 plain
      have separator : Unescaped ", " := unescaped_ofList (by decide)
      unfold ShellError.message
      simp only [unescaped_append, toString_string, commandPlain,
        unescaped_intercalate separator modulesPlain, and_true]
      repeat' apply And.intro
      all_goals exact unescaped_ofList (by decide)
  | nested line source ih =>
      obtain ⟨linePlain, sourcePlain⟩ := List.forall_mem_cons.1 plain
      unfold ShellError.message
      simp only [unescaped_append, toString_string, linePlain, ih sourcePlain, and_true]
      exact ⟨unescaped_ofList (by decide), unescaped_ofList (by decide)⟩
  | danglingMacroMarker | unterminatedQuote | unterminatedEscape | noPreviousOutput | cancelled =>
      exact unescaped_ofList (by decide)
  | _ =>
      simp only [ShellError.texts, List.forall_mem_cons] at plain
      unfold ShellError.message
      simp only [unescaped_append, toString_string, unescaped_name, unescaped_toString, plain,
        and_true, true_and]
      repeat' apply And.intro
      all_goals exact unescaped_ofList (by decide)

theorem unescaped_display_integer (number : Int64) :
    Unescaped (Value.integer number).display := by
  rw [Value.display, Text.showInteger]
  cases number.toInt with
  | ofNat size => exact unescaped_toString size
  | negSucc size => exact unescaped_append.2 ⟨by decide, unescaped_toString (size + 1)⟩

theorem unescaped_display_image (picture : Image) : Unescaped (Value.image picture).display := by
  unfold Value.display
  simp +decide only [unescaped_append, toString_string, unescaped_toString, and_true]

end Unescaped

section Values

/-- What is shown of a part of a value that is not a list. -/
def shown : Value → String
  | .none => ""
  | value => value.display ++ "\n"

theorem write_value_of_not_list {value : Value} (notList : value.kind ≠ .list) :
    write false (.value value) = shown value := by
  cases value with
  | list items => exact absurd rfl notList
  | none => rfl
  | text | integer | image => simp [write, lines, valueLines, writeLine, shown, Value.display]

theorem write_list (colored : Bool) (items : List Value) :
    write colored (.value (.list items)) =
      String.join (items.map fun item => write colored (.value item)) := by
  induction items with
  | nil => rfl
  | cons item items ih =>
      change String.join ((valueLines item ++ itemsLines items).map (writeLine colored ·)) = _
      rw [List.map_append, String.join_append, List.map_cons, String.join_cons, ← ih]
      rfl

mutual

theorem write_value : (value : Value) →
    write false (.value value) = String.join (value.leaves.map fun leaf => shown leaf.2)
  | .none => rfl
  | .text .. | .integer _ | .image _ => by
      rw [write_value_of_not_list (by rintro ⟨⟩)]
      simp [Value.leaves]
  | .list items => (write_list false items).trans (write_items 0 items)

theorem write_items (index : Nat) : (items : List Value) →
    String.join (items.map fun item => write false (.value item)) =
      String.join ((Value.leavesFrom index items).map fun leaf => shown leaf.2)
  | [] => rfl
  | item :: rest => by
      rw [List.map_cons, String.join_cons, write_value item, write_items (index + 1) rest,
        Value.leavesFrom, List.map_append, String.join_append, List.map_map]
      rfl

end

end Values

section Colors

variable {chars rest : List Char} {color : Color} {parameters : String} {line : Line}

/-- The characters between the bracket and the letter of a sequence that selects a color. -/
def isParameter (c : Char) : Bool := c.isDigit || c == ';'

/-- Characters without the sequences that select colors: an escape character, an opening bracket,
parameters and the letter `m`. -/
def withoutSelections : List Char → List Char
  | [] => []
  | '\x1b' :: '[' :: rest =>
      match _ : rest.dropWhile isParameter with
      | 'm' :: after => withoutSelections after
      | _ => '\x1b' :: withoutSelections ('[' :: rest)
  | c :: rest => c :: withoutSelections rest
  termination_by chars => chars.length
  decreasing_by
    · rename_i sequence
      have shorter := (List.dropWhile_sublist isParameter (l := rest)).length_le
      rw [sequence, List.length_cons] at shorter
      simp only [List.length_cons]
      omega
    all_goals simp

theorem withoutSelections_cons {c : Char} (plain : c ≠ '\x1b') :
    withoutSelections (c :: rest) = c :: withoutSelections rest := by
  rw [withoutSelections]
  rintro _ rfl
  exact absurd rfl plain

theorem withoutSelections_append (plain : '\x1b' ∉ chars) :
    withoutSelections (chars ++ rest) = chars ++ withoutSelections rest := by
  induction chars with
  | nil => rfl
  | cons c chars ih =>
      rw [List.mem_cons, not_or] at plain
      rw [List.cons_append, withoutSelections_cons (Ne.symm plain.1), ih plain.2]
      rfl

theorem withoutSelections_sequence (all : chars.all isParameter = true) :
    withoutSelections ('\x1b' :: '[' :: (chars ++ 'm' :: rest)) = withoutSelections rest := by
  have sequence : (chars ++ 'm' :: rest).dropWhile isParameter = 'm' :: rest := by
    rw [List.dropWhile_append_of_pos (List.all_eq_true.1 all)]
    exact List.dropWhile_cons_of_neg (by decide)
  rw [withoutSelections]
  split
  · next after same =>
      rw [sequence] at same
      cases same
      rfl
  · next other =>
      exact absurd sequence (other rest)

theorem all_isParameter_toString (number : Nat) :
    (toString number).toList.all isParameter = true := by
  refine List.all_eq_true.2 fun c member => ?_
  rw [Nat.toString_eq_ofList_toDigits, String.toList_ofList] at member
  rw [isParameter, Nat.isDigit_of_mem_toDigits (by decide) (by decide) member, Bool.true_or]

theorem all_isParameter_selection (selects : selection color = some parameters) :
    parameters.toList.all isParameter = true := by
  cases color with
  | plain => cases selects
  | rgb red green blue =>
      obtain rfl := Option.some.inj selects
      simp only [String.toList_append, toString_string, List.all_append, all_isParameter_toString]
      decide
  | _ =>
      obtain rfl := Option.some.inj selects
      decide

/-- Sequences that select colors, one after the other. -/
inductive Selections : List Char → Prop
  | nil : Selections []
  | cons {chars rest : List Char} (all : chars.all isParameter = true) (later : Selections rest) :
      Selections ('\x1b' :: '[' :: (chars ++ 'm' :: rest))

theorem Selections.withoutSelections_append (selections : Selections chars) :
    withoutSelections (chars ++ rest) = withoutSelections rest := by
  induction selections with
  | nil => rfl
  | cons all later ih =>
      rw [List.cons_append, List.cons_append, List.append_assoc, List.cons_append,
        withoutSelections_sequence all, ih]

/-- A painter writes a text between sequences that select colors. -/
def Frames (painter : Painter) : Prop :=
  ∀ color, ∃ before behind, Selections before ∧ Selections behind ∧
    ∀ text, (painter text color).toList = before ++ (text.toList ++ behind)

theorem frames_paint : Frames paint := by
  intro color
  cases selects : selection color with
  | none => exact ⟨[], [], .nil, .nil, fun text => by simp [paint, selects]⟩
  | some parameters =>
      have reset : ['0'].all isParameter = true := by decide
      refine ⟨_, _, .cons (all_isParameter_selection selects) .nil, .cons reset .nil,
        fun text => ?_⟩
      simp [paint, selects, toString_string]

variable {painter : Painter}

theorem withoutSelections_writeLine (frames : Frames painter) (plain : Unescaped line.text) :
    withoutSelections ((writeLine true line painter).toList ++ rest) =
      (writeLine false line).toList ++ withoutSelections rest := by
  obtain ⟨before, behind, selects, resets, painted⟩ := frames line.color
  have chars : (writeLine true line painter).toList ++ rest =
      before ++ (line.text.toList ++ (behind ++ '\n' :: rest)) := by
    simp [writeLine, painted]
  rw [chars, selects.withoutSelections_append, withoutSelections_append plain,
    resets.withoutSelections_append, withoutSelections_cons (by decide)]
  simp [writeLine]

theorem withoutSelections_writeLines (frames : Frames painter) {lines : List Line}
    (plain : ∀ line ∈ lines, Unescaped line.text) :
    withoutSelections ((String.join (lines.map (writeLine true · painter))).toList ++ rest) =
      (String.join (lines.map (writeLine false ·))).toList ++ withoutSelections rest := by
  induction lines with
  | nil => rfl
  | cons line lines ih =>
      rw [List.forall_mem_cons] at plain
      simp only [List.map_cons, String.join_cons, String.toList_append, List.append_assoc]
      rw [withoutSelections_writeLine frames plain.1, ih plain.2]

end Colors

section Presentations

/-- Whether there is no escape character in the texts of a presentation. -/
def Plain : Presentation → Prop
  | .echo line => Unescaped line
  | .value value =>
      ∀ path content color, value.at? path = some (.text content color) → Unescaped content
  | .report error => ∀ text ∈ error.texts, Unescaped text

mutual

theorem unescaped_valueLines : (value : Value) → Plain (.value value) →
    ∀ line ∈ valueLines value, Unescaped line.text
  | .none, _ => nofun
  | .text content color, plain => List.forall_mem_singleton.2 (plain [] content color rfl)
  | .integer number, _ => List.forall_mem_singleton.2 (unescaped_display_integer number)
  | .image picture, _ => List.forall_mem_singleton.2 (unescaped_display_image picture)
  | .list items, plain => unescaped_itemsLines items fun item member path content color found => by
      obtain ⟨index, itemAt⟩ := List.mem_iff_getElem?.1 member
      refine plain (index :: path) content color ?_
      rw [Value.at?, itemAt]
      exact found

theorem unescaped_itemsLines : (items : List Value) → (∀ item ∈ items, Plain (.value item)) →
    ∀ line ∈ itemsLines items, Unescaped line.text
  | [], _ => nofun
  | item :: rest, plain => List.forall_mem_append.2
      ⟨unescaped_valueLines item (plain item List.mem_cons_self),
        unescaped_itemsLines rest fun other later => plain other (List.mem_cons_of_mem item later)⟩

end

theorem unescaped_lines {item : Presentation} (plain : Plain item) :
    ∀ line ∈ lines item, Unescaped line.text := by
  cases item with
  | echo line => exact List.forall_mem_singleton.2 (unescaped_append.2 ⟨by decide, plain⟩)
  | value value => exact unescaped_valueLines value plain
  | report error =>
      have message : ∀ line ∈ [Line.mk error.message .red], Unescaped line.text :=
        List.forall_mem_singleton.2 (unescaped_message plain)
      simp only [lines]
      cases error.fault with
      | user => exact message
      | internal => exact List.forall_mem_cons.2 ⟨by decide, message⟩

variable {painter : Painter}

theorem withoutSelections_write (frames : Frames painter) {item : Presentation}
    (plain : Plain item) (rest : List Char) :
    withoutSelections ((write true item painter).toList ++ rest) =
      (write false item).toList ++ withoutSelections rest :=
  withoutSelections_writeLines frames (unescaped_lines plain)

/-- What is written for presentations, one after the other. -/
def writeAll (colored : Bool) (items : List Presentation) (painter : Painter := paint) : String :=
  String.join (items.map (write colored · painter))

theorem withoutSelections_writeAll (frames : Frames painter) {items : List Presentation}
    (plain : ∀ item ∈ items, Plain item) :
    withoutSelections (writeAll true items painter).toList = (writeAll false items).toList := by
  induction items with
  | nil => exact withoutSelections.eq_1
  | cons item items ih =>
      rw [List.forall_mem_cons] at plain
      simp only [writeAll] at ih ⊢
      simp only [List.map_cons, String.join_cons, String.toList_append]
      rw [withoutSelections_write frames plain.1, ih plain.2]

end Presentations

end Terminal

/-- Without colors, the parts of a value that are not lists are shown in the order of their paths,
each with its end of line and nothing for `none`.  With colors, the same is shown but for the
sequences that select them, whatever is echoed, rendered and reported. -/
theorem terminal_shows_leaves_and_colors :
    (∀ value : Value, ∃ leaves, value.Fringe leaves ∧
      Terminal.write false (.value value) =
        String.join (leaves.map fun leaf => Terminal.shown leaf.2)) ∧
    Terminal.Frames Terminal.paint ∧
    ∀ painter, Terminal.Frames painter →
      ∀ items : List Presentation, (∀ item ∈ items, Terminal.Plain item) →
        Terminal.withoutSelections (Terminal.writeAll true items painter).toList =
          (Terminal.writeAll false items painter).toList :=
  ⟨fun value => ⟨value.leaves, value.fringe_leaves, Terminal.write_value value⟩,
    Terminal.frames_paint, fun _ frames _ => Terminal.withoutSelections_writeAll frames⟩

/-- A line is echoed, nested lists of texts in several colors are shown and an error of a module is
reported. -/
theorem terminal_shows_nested_lists :
    let items : List Presentation := [.echo "run",
      .value (.list [.none, .list [.text "a" .plain, .integer (-5)], .text "b" (.rgb 1 20 255)]),
      .report (.nested "run" (.panicked "oops"))]
    (∀ item ∈ items, Terminal.Plain item) ∧
    Terminal.writeAll true items =
      "\x1b[38;5;244m> run\x1b[0m\na\n\x1b[38;2;255;69;0m-5\x1b[0m\n" ++
      "\x1b[38;2;1;20;255mb\x1b[0m\n\x1b[31mA module returned an error:\x1b[0m\n" ++
      "\x1b[31mError in call to \"run\": Code error: command panicked: oops\x1b[0m\n" ∧
    Terminal.withoutSelections (Terminal.writeAll true items).toList =
      ("> run\na\n-5\nb\nA module returned an error:\n" ++
        "Error in call to \"run\": Code error: command panicked: oops\n").toList := by
  intro items
  have value : Terminal.Plain
      (.value (.list [.none, .list [.text "a" .plain, .integer (-5)], .text "b" (.rgb 1 20 255)]))
      := by
    intro path content color found
    have member := (Value.mem_leaves_iff path (.text content color) _).2 ⟨found, nofun⟩
    simp only [Value.leaves, Value.leavesFrom, List.map_cons, List.map_nil, List.append_nil,
      List.cons_append, List.nil_append, List.mem_cons, Prod.mk.injEq, reduceCtorEq, and_false,
      false_or, Value.text.injEq, List.not_mem_nil, or_false] at member
    obtain ⟨-, rfl, -⟩ | ⟨-, rfl, -⟩ := member <;> decide
  have error : Terminal.Plain (.report (.nested "run" (.panicked "oops"))) := by
    unfold Terminal.Plain
    decide
  have plain : ∀ item ∈ items, Terminal.Plain item := List.forall_mem_cons.2
    ⟨(by decide : Terminal.Unescaped "run"), List.forall_mem_cons.2
      ⟨value, List.forall_mem_singleton.2 error⟩⟩
  refine ⟨plain, by decide +kernel, ?_⟩
  rw [terminal_shows_leaves_and_colors.2.2 _ Terminal.frames_paint items plain]
  decide +kernel

end CommandShell
