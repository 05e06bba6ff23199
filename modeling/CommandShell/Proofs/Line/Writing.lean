import CommandShell.CommandName
import CommandShell.MacroTable
import CommandShell.Proofs.Line.Decimal
import CommandShell.Proofs.Line.Grammar
import CommandShell.Proofs.Line.Lexing

/-!
# Writing lines

A line is written from the name of a command and a sequence of flags and arguments,
with every word in double quotes.  No stage of reading a line finds anything else in
it: the tokens are those written, there is no macro to expand, the head is the name,
and the rest adds the flags and arguments to the bundle one after the other.
-/

namespace CommandShell

/-- A flag or an argument in a line. -/
inductive Entry where
  | flag (name : String)
  | argument (name : String) (value : Value)

namespace Entry

/-- The word that stands for a value. -/
def word (value : Value) : Bundle.ValueForm := .raw false value.display []

/-- The form in which an entry is written: a dash before a flag, an equals sign after
the name of an argument, and commas between the elements of a list. -/
def form : Entry → Bundle.ItemForm
  | flag name => .flag false name
  | argument name (.list (first :: more)) => .keyed name (word first) (more.map word)
  | argument name value => .keyed name (word value) []

/-- The name and the value of an argument. -/
def argument? : Entry → Option (String × Value)
  | flag _ => none
  | argument name value => some (name, value)

/-- Add an entry to a bundle. -/
def addTo (bundle : Bundle) : Entry → Bundle
  | flag name => bundle.withFlag name
  | argument name value => bundle.withArgument name value

end Entry

namespace CommandName

/-- The tokens of a name, with a dot between a module and its command. -/
def tokens : CommandName → List Token
  | bare command => [.word command]
  | qualified module command => [.word module, .moduleDelimiter, .word command]

/-- Any text can be the name of a command, but a module is not left out. -/
def WellFormed : CommandName → Prop
  | bare _ => True
  | qualified module command => module ≠ "" ∧ command ≠ ""

end CommandName

/-- Entries in written form, with a space before each of them. -/
def writeEntries (entries : List Entry) : String :=
  String.join (entries.map fun entry => " " ++ Token.writeAll entry.form.tokens)

/-- The line of a command name and the entries that follow it. -/
def writeLine (name : CommandName) (entries : List Entry) : String :=
  Token.writeAll name.tokens ++ writeEntries entries

/-- The command name and the bundle that a line comes to. -/
def readLine (macros : MacroTable) (previous : Option Value) (line : String) :
    Except ShellError (CommandName × Bundle) := do
  let typed ← tokenize line
  let tokens ← macros.expand typed
  let (name, rest) ← CommandName.split tokens
  let bundle ← Bundle.ofTokens previous rest
  return (name, bundle)

section Tokens

def entryTokens (entries : List Entry) : List Token :=
  (entries.map Entry.form).flatMap Bundle.ItemForm.tokens

theorem scan_writeEntries (entries : List Entry) :
    Token.scan .between (writeEntries entries).toList = .ok (entryTokens entries) := by
  induction entries with
  | nil => exact Token.scan_nil
  | cons entry entries ih =>
      have written : (writeEntries (entry :: entries)).toList =
          ' ' :: ((Token.writeAll entry.form.tokens).toList ++
            (writeEntries entries).toList) := by
        simp [writeEntries]
      rw [written, Token.scan_blank rfl, Token.scan_writeAll, ih]
      rfl

theorem tokenize_writeLine (name : CommandName) (entries : List Entry) :
    tokenize (writeLine name entries) = .ok (name.tokens ++ entryTokens entries) := by
  rw [tokenize, writeLine, String.toList_append, Token.scan_writeAll, scan_writeEntries]
  rfl

theorem separated_words (values : List Value) :
    Bundle.separated (values.map Entry.word) =
      values.flatMap fun value => [.separator, .word value.display] := by
  rw [Bundle.separated, List.flatMap_map]
  rfl

/-- Only words and three of the special characters occur in an entry. -/
theorem plain_of_mem_entry {entry : Entry} {token : Token}
    (member : token ∈ entry.form.tokens) :
    token ≠ .macroMarker ∧ token ≠ .previousOutput := by
  have wordEq (value : Value) : (Entry.word value).tokens = [.word value.display] := rfl
  unfold Entry.form at member
  split at member <;>
    simp only [Bundle.ItemForm.tokens, wordEq, separated_words, List.mem_cons,
      List.mem_append, List.mem_flatMap, List.not_mem_nil, or_false] at member
  · rcases member with rfl | rfl <;> simp
  · rcases member with rfl | rfl | rfl | ⟨value, -, rfl | rfl⟩ <;> simp
  · rcases member with rfl | rfl | rfl | ⟨⟨⟩⟩ <;> simp

theorem plain_of_mem_entryTokens {entries : List Entry} {token : Token}
    (member : token ∈ entryTokens entries) :
    token ≠ .macroMarker ∧ token ≠ .previousOutput := by
  rw [entryTokens, List.flatMap_map, List.mem_flatMap] at member
  obtain ⟨entry, -, member⟩ := member
  exact plain_of_mem_entry member

end Tokens

section Stages

/-- Tokens without a marker stay as they are. -/
theorem MacroTable.expand_append (macros : MacroTable) {tokens : List Token}
    (unmarked : .macroMarker ∉ tokens) (rest : List Token) :
    macros.expand (tokens ++ rest) = (tokens ++ ·) <$> macros.expand rest := by
  induction tokens with
  | nil => exact (id_map _).symm
  | cons token tokens ih =>
      rw [List.mem_cons, not_or] at unmarked
      have kept : macros.expand (token :: (tokens ++ rest)) =
          (token :: ·) <$> macros.expand (tokens ++ rest) := by
        cases token <;> first | rfl | exact absurd rfl unmarked.1
      rw [List.cons_append, kept, ih unmarked.2, Functor.map_map]
      rfl

theorem MacroTable.expand_eq_self (macros : MacroTable) {tokens : List Token}
    (unmarked : .macroMarker ∉ tokens) : macros.expand tokens = .ok tokens := by
  have expanded : macros.expand (tokens ++ []) = .ok (tokens ++ []) :=
    macros.expand_append unmarked []
  rwa [List.append_nil] at expanded

theorem CommandName.split_tokens {name : CommandName} {rest : List Token}
    (wellFormed : name.WellFormed) (ends : rest.head? ≠ some .moduleDelimiter) :
    CommandName.split (name.tokens ++ rest) = .ok (name, rest) := by
  have partsEq : takeParts rest = ([], rest) := by
    unfold takeParts
    split
    · cases ends rfl
    · cases ends rfl
    · rfl
  cases name with
  | bare command =>
      simp only [CommandName.split, tokens, List.cons_append, List.nil_append,
        List.head?_cons, takeWord, partsEq, ofParts]
      rfl
  | qualified module command =>
      obtain ⟨moduleNonempty, commandNonempty⟩ := wellFormed
      have named : ofParts [module, command] = .ok (.qualified module command) := by
        simp [ofParts, moduleNonempty, commandNonempty]
      simp only [CommandName.split, tokens, List.cons_append, List.nil_append,
        List.head?_cons, takeWord, takeParts, partsEq, named]
      rfl

end Stages

/-- What can be written as the value of an argument. -/
inductive Value.Writable : Value → Prop
  | atomic {value : Value} (atomic : value.Atomic) : Writable value
  | list {items : List Value} (several : 2 ≤ items.length)
      (atomic : ∀ item ∈ items, item.Atomic) : Writable (.list items)

section Adding

variable {previous : Option Value} {bundle : Bundle} {name : String} {value : Value}
variable {entries : List Entry}

theorem denote?_word (atomic : value.Atomic) :
    (Entry.word value).denote? previous = some value := by
  have displayed : ".".intercalate [value.display] = value.display :=
    String.intercalate_singleton
  simp [Entry.word, Bundle.ValueForm.denote?, displayed, atomic.ofRaw_display]

theorem denote?_words {values : List Value} (atomic : ∀ value ∈ values, value.Atomic) :
    (values.map Entry.word).mapM (·.denote? previous) = some values := by
  induction values with
  | nil => rfl
  | cons value values ih =>
      rw [List.forall_mem_cons] at atomic
      rw [List.map_cons, List.mapM_cons, denote?_word atomic.1, ih atomic.2]
      rfl

theorem add?_flag (nonempty : name ≠ "") :
    Bundle.ItemForm.add? previous bundle (Entry.flag name).form =
      some (bundle.withFlag name) :=
  Bundle.add?_flag_eq_some_iff.2 ⟨by simpa using nonempty, rfl⟩

theorem add?_argument (writable : value.Writable)
    (unused : bundle.hasArgument name = false) :
    Bundle.ItemForm.add? previous bundle (Entry.argument name value).form =
      some (bundle.withArgument name value) := by
  cases writable with
  | atomic atomic =>
      have formEq : (Entry.argument name value).form =
          .keyed name (Entry.word value) [] := by
        cases atomic <;> rfl
      rw [formEq]
      exact Bundle.add?_keyed_eq_some_iff.2
        ⟨value, [], denote?_word atomic, rfl, unused, rfl⟩
  | @list items several atomic =>
      cases items with
      | nil => simp at several
      | cons first more =>
          cases more with
          | nil => simp at several
          | cons second more =>
              rw [List.forall_mem_cons] at atomic
              exact Bundle.add?_keyed_eq_some_iff.2
                ⟨first, second :: more, denote?_word atomic.1, denote?_words atomic.2,
                  unused, rfl⟩

/-- Entries that can all be added to a bundle. -/
structure Fit (bundle : Bundle) (entries : List Entry) : Prop where
  flags : ∀ name, .flag name ∈ entries → name ≠ ""
  values : ∀ argument ∈ entries.filterMap Entry.argument?, argument.2.Writable
  names : ((bundle.arguments ++ entries.filterMap Entry.argument?).map (·.1)).Nodup

/-- Entries that fit are added one after the other. -/
theorem foldlM_add? (fit : Fit bundle entries) :
    (entries.map Entry.form).foldlM (Bundle.ItemForm.add? previous) bundle =
      some (entries.foldl Entry.addTo bundle) := by
  induction entries generalizing bundle with
  | nil => rfl
  | cons entry entries ih =>
      cases entry with
      | flag name =>
          have later : Fit (bundle.withFlag name) entries :=
            ⟨fun other member => fit.flags other (List.mem_cons_of_mem _ member),
              fit.values, fit.names⟩
          have nonempty := fit.flags name (List.mem_cons_self ..)
          rw [List.map_cons, List.foldlM_cons, add?_flag nonempty]
          exact ih later
      | argument name value =>
          have names := fit.names
          have later : Fit (bundle.withArgument name value) entries := by
            refine ⟨fun other member => fit.flags other (List.mem_cons_of_mem _ member),
              fun other member => fit.values other (List.mem_cons_of_mem _ member), ?_⟩
            rw [Bundle.withArgument, List.append_assoc]
            exact names
          have writable : value.Writable :=
            fit.values (name, value) (List.mem_cons_self ..)
          have unused : bundle.hasArgument name = false := by
            rw [List.map_append, List.nodup_append] at names
            rw [Bundle.hasArgument_eq_false_iff]
            exact fun listed => names.2.2 _ listed _ (List.mem_cons_self ..) rfl
          rw [List.map_cons, List.foldlM_cons, add?_argument writable unused]
          exact ih later

end Adding

section Reading

variable {previous : Option Value} {name : CommandName} {entries : List Entry}

theorem expand_written (macros : MacroTable) (name : CommandName)
    (entries : List Entry) :
    macros.expand (name.tokens ++ entryTokens entries) =
      .ok (name.tokens ++ entryTokens entries) := by
  refine macros.expand_eq_self ?_
  rw [List.mem_append, not_or]
  constructor
  · cases name <;> simp [CommandName.tokens]
  · exact fun member => (plain_of_mem_entryTokens member).1 rfl

theorem split_written (wellFormed : name.WellFormed) :
    CommandName.split (name.tokens ++ entryTokens entries) =
      .ok (name, entryTokens entries) :=
  CommandName.split_tokens wellFormed (Bundle.head?_items (entries.map Entry.form)).1

theorem ofTokens_entryTokens (fit : Fit {} entries) :
    Bundle.ofTokens previous (entryTokens entries) =
      .ok (entries.foldl Entry.addTo {}) :=
  Bundle.readItems_items (foldlM_add? fit)

/-- A line is read as its name and all its entries. -/
theorem readLine_writeLine_of_fit (macros : MacroTable) (wellFormed : name.WellFormed)
    (fit : Fit {} entries) :
    readLine macros previous (writeLine name entries) =
      .ok (name, entries.foldl Entry.addTo {}) := by
  refine bind_eq_ok_iff.2 ⟨_, tokenize_writeLine name entries, ?_⟩
  refine bind_eq_ok_iff.2 ⟨_, expand_written macros name entries, ?_⟩
  refine bind_eq_ok_iff.2 ⟨_, split_written wellFormed, ?_⟩
  exact bind_eq_ok_iff.2 ⟨_, ofTokens_entryTokens fit, rfl⟩

end Reading

end CommandShell
