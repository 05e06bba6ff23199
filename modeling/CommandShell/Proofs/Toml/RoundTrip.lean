import CommandShell.MacroFile
import Mathlib.Data.List.TakeDrop

/-!
# Reading back what was written

A table of texts that was written is read as the same table.  Each piece that the writer
makes is read back by one reader: an escape by `basicString`, a key by `keyPart?`, a
line by `readLine?`.  The lines follow by induction, with the entries that have been read
so far in the open table.
-/

namespace CommandShell
namespace Toml

theorem codePoint?_hexDigits : ∀ code < 0x80,
    codePoint? ['0', '0', hexDigit (code / 16), hexDigit (code % 16)] =
      some (Char.ofNat code) := by
  decide +kernel

/-- A character is read back, whether it was escaped or not. -/
theorem basicString_quotedChar (c : Char) (rest : List Char) :
    basicString (quotedChar c ++ rest) = (basicString rest).cons c := by
  by_cases special : c = '"' ∨ c = '\\'
  · rw [quotedChar, if_pos special]
    rcases special with rfl | rfl <;>
    · rw [basicString.eq_def]
      rfl
  · rw [quotedChar, if_neg special]
    by_cases control : c.toNat < 0x20 ∨ c.toNat = 0x7F
    · have read := codePoint?_hexDigits c.toNat (by omega)
      rw [Char.ofNat_toNat] at read
      rw [if_pos control]
      simp only [List.cons_append, List.nil_append]
      rw [basicString, read]
      rfl
    · have plain : isPlainChar c = true := by
        simp [isPlainChar]
        omega
      rw [if_neg control, List.singleton_append, basicString.eq_def]
      split <;> simp_all

theorem basicString_quoted (text rest : List Char) :
    basicString (text.flatMap quotedChar ++ '"' :: rest) = some (text, rest) := by
  induction text with
  | nil => rw [List.flatMap_nil, List.nil_append, basicString]
  | cons c text ih =>
      rw [List.flatMap_cons, List.append_assoc, basicString_quotedChar, ih]
      rfl

theorem quotedString_quote {text : List Char}
    (single : ∀ rest, text ≠ '"' :: '"' :: rest) :
    quotedString ('"' :: text) = basicString text := by
  rw [quotedString.eq_def]
  split <;> simp_all

/-- A quoted text does not begin with three quotes: a quote in it is escaped, and after
an empty one the line ends. -/
theorem quotedString_quoted (text rest : List Char) :
    quotedString ('"' :: (text.flatMap quotedChar ++ '"' :: '\n' :: rest)) =
      some (text, '\n' :: rest) := by
  rw [quotedString_quote, basicString_quoted]
  intro others same
  cases text with
  | nil => simp at same
  | cons c text =>
      rw [List.flatMap_cons, quotedChar] at same
      split at same
      · simp at same
      · split at same
        · simp at same
        · simp_all

theorem skipBlanks_of_not_blank {c : Char} {rest : List Char} (space : c ≠ ' ')
    (tab : c ≠ '\t') : skipBlanks (c :: rest) = c :: rest := by
  simp [skipBlanks, space, tab]

/-- The line of an entry, with what comes after it. -/
def entryChars (entry : String × String) (rest : List Char) : List Char :=
  '"' :: (entry.1.toList.flatMap quotedChar ++ '"' :: ' ' :: '=' :: ' ' :: '"' ::
    (entry.2.toList.flatMap quotedChar ++ '"' :: '\n' :: rest))

theorem readLine?_entryChars (document : Document) (fuel : Nat) (entry : String × String)
    (rest : List Char) :
    document.readLine? (fuel + 1) (entryChars entry rest) =
      (document.add? [] entry.1 (.string entry.2)).map
        fun document => (document, '\n' :: rest) := by
  obtain ⟨key, text⟩ := entry
  have keyEq : key? (fuel + 1) (entryChars (key, text) rest) =
      some (([], key), '=' :: ' ' :: '"' ::
        (text.toList.flatMap quotedChar ++ '"' :: '\n' :: rest)) := by
    rw [key?, entryChars, skipBlanks_of_not_blank (by decide) (by decide), keyPart?,
      basicString_quoted]
    simp [skipBlanks]
  have valueEq : value? (fuel + 1)
      ('"' :: (text.toList.flatMap quotedChar ++ '"' :: '\n' :: rest)) =
        some (.string text, '\n' :: rest) := by
    rw [value?, quotedString_quoted]
    simp
  rw [entryChars] at keyEq ⊢
  rw [Document.readLine?, keyEq]
  · simp only [Option.bind_eq_bind, Option.bind_some, skipBlanks, List.dropWhile]
    simp [valueEq]
    cases document.add? [] key (.string text) <;> rfl
  · simp
  · simp

theorem skipLines_of_starts {c : Char} {text : List Char} (fuel : Nat)
    (starts : c ∉ [' ', '\t', '#', '\n', '\r']) :
    skipLines fuel (c :: text) = some (c :: text) := by
  simp only [List.mem_cons, not_or] at starts
  obtain ⟨space, tab, hash, lineFeed, carriageReturn, -⟩ := starts
  cases fuel with
  | zero => rfl
  | succ fuel =>
      have trailing : skipTrailing (c :: text) = some (c :: text) := by
        rw [skipTrailing, skipBlanks_of_not_blank space tab]
        split
        · next same => exact absurd (List.cons.inj same).1 hash
        · rfl
      rw [skipLines, trailing]
      simp only [Option.bind_eq_bind, Option.bind_some]
      split <;> simp_all

theorem readAll?_of_readLine? {document next : Document} {c : Char} {text rest : List Char}
    {fuel : Nat} (starts : c ∉ [' ', '\t', '#', '\n', '\r'])
    (reads : document.readLine? fuel (c :: text) = some (next, '\n' :: rest)) :
    document.readAll? (fuel + 1) (c :: text) = next.readAll? fuel rest := by
  have trailing : skipTrailing ('\n' :: rest) = some ('\n' :: rest) := by
    rw [skipTrailing, skipBlanks_of_not_blank (by decide) (by decide)]
    rfl
  rw [Document.readAll?, skipLines_of_starts fuel starts]
  simp [reads, trailing]

/-- A document with one table, which is open. -/
def tableDocument (name : String) (inner : Entries) : Document where
  entries := [(name, .table .header inner)]
  openPath := [name]

theorem add?_tableDocument (name key : String) {inner : Entries} (item : Item)
    (free : inner.lookup key = none) :
    (tableDocument name inner).add? [] key item =
      some (tableDocument name ((key, item) :: inner)) := by
  simp [tableDocument, Document.add?, Entries.update?, Entries.find?, Entries.set,
    Entries.addDotted?, Entries.add?, free]

/-- The items of a table of texts, the latest first. -/
def textItems (entries : List (String × String)) : Entries :=
  entries.reverse.map fun entry => (entry.1, .string entry.2)

theorem readAll?_entries (name : String) {entries : List (String × String)}
    {inner : Entries} {fuel : Nat} (distinct : (entries.map (·.1)).Nodup)
    (free : ∀ entry ∈ entries, inner.lookup entry.1 = none) (enough : entries.length < fuel) :
    (tableDocument name inner).readAll? fuel (entries.foldr entryChars []) =
      some (tableDocument name (textItems entries ++ inner)) := by
  induction entries generalizing inner fuel with
  | nil =>
      obtain ⟨fuel, rfl⟩ := Nat.exists_eq_add_one.2 enough
      cases fuel <;> rfl
  | cons entry entries ih =>
      obtain ⟨fuel, rfl⟩ : ∃ more, fuel = more + 2 :=
        ⟨fuel - 2, by rw [List.length_cons] at enough; omega⟩
      obtain ⟨notLater, distinct⟩ := List.nodup_cons.1 distinct
      have added := add?_tableDocument name entry.1 (.string entry.2) (free entry (by simp))
      have reads := readLine?_entryChars (tableDocument name inner) fuel entry
        (entries.foldr entryChars [])
      rw [added] at reads
      rw [List.foldr_cons, entryChars, readAll?_of_readLine? (by decide) reads, ih distinct]
      · simp [textItems]
      · intro other member
        have different : other.1 ≠ entry.1 := fun same =>
          notLater (List.mem_map.2 ⟨other, member, same⟩)
        rw [List.lookup_cons, beq_false_of_ne different]
        exact free other (List.mem_cons_of_mem _ member)
      · rw [List.length_cons] at enough
        omega

theorem toList_writeTable (name : String) (entries : List (String × String)) :
    (writeTable name entries).toList =
      '[' :: (name.toList ++ ']' :: '\n' :: entries.foldr entryChars []) := by
  have linesEq : (String.join (entries.map fun entry =>
      quotedText entry.1 ++ " = " ++ quotedText entry.2 ++ "\n")).toList =
        entries.foldr entryChars [] := by
    induction entries with
    | nil => rfl
    | cons entry entries ih =>
        simp [entryChars, quotedText, ← ih, String.toList_join]
  change ("[" ++ name ++ "]\n" ++ String.join (entries.map fun entry =>
    quotedText entry.1 ++ " = " ++ quotedText entry.2 ++ "\n")).toList = _
  simp [linesEq]

/-- A name that can be a key without quotes. -/
def IsBareKey (name : String) : Prop :=
  name ≠ "" ∧ name.toList.all isBareKeyChar = true

theorem readLine?_header {name : String} (bare : IsBareKey name) (fuel : Nat)
    (rest : List Char) :
    ({} : Document).readLine? (fuel + 1) ('[' :: (name.toList ++ ']' :: '\n' :: rest)) =
      some (tableDocument name [], '\n' :: rest) := by
  obtain ⟨nonempty, bareChars⟩ := bare
  rw [List.all_eq_true] at bareChars
  have spanEq : (name.toList ++ ']' :: '\n' :: rest).span isBareKeyChar =
      (name.toList, ']' :: '\n' :: rest) := by
    rw [List.span_eq_takeWhile_dropWhile, List.takeWhile_append_of_pos bareChars,
      List.dropWhile_append_of_pos bareChars]
    simp [isBareKeyChar]
  cases chars : name.toList with
  | nil => exact absurd (String.toList_eq_nil_iff.1 chars) nonempty
  | cons c more =>
      have bareChar : isBareKeyChar c = true := bareChars c (by simp [chars])
      have starts : ∀ special ∈ [' ', '\t', '"', '\'', '['], c ≠ special := by
        rintro special listed rfl
        have notBare : [' ', '\t', '"', '\'', '['].all (!isBareKeyChar ·) = true := by
          decide
        have isSpecial := List.all_eq_true.1 notBare c listed
        simp [bareChar] at isSpecial
      simp only [List.forall_mem_cons] at starts
      obtain ⟨space, tab, quote, apostrophe, bracket, -⟩ := starts
      have partEq : keyPart? (c :: (more ++ ']' :: '\n' :: rest)) =
          some (name, ']' :: '\n' :: rest) := by
        rw [chars] at spanEq
        rw [keyPart?, ← List.cons_append, spanEq]
        · simp [← chars]
        · simpa using quote
        · simpa using apostrophe
      have keyEq : key? (fuel + 1) (c :: (more ++ ']' :: '\n' :: rest)) =
          some (([], name), ']' :: '\n' :: rest) := by
        rw [key?, skipBlanks_of_not_blank space tab, partEq]
        simp [skipBlanks]
      rw [List.cons_append, Document.readLine?, keyEq]
      · rfl
      · simpa using bracket

theorem length_le_entryChars (entries : List (String × String)) :
    entries.length ≤ (entries.foldr entryChars []).length := by
  induction entries with
  | nil => exact Nat.le_refl 0
  | cons entry entries ih =>
      simp only [List.foldr_cons, entryChars, List.length_cons, List.length_append]
      omega

theorem parse?_writeTable {name : String} {entries : List (String × String)}
    (bare : IsBareKey name) (distinct : (entries.map (·.1)).Nodup) :
    parse? (writeTable name entries) =
      some [(name, .table .header (textItems entries))] := by
  have enough := length_le_entryChars entries
  have noMark (text : List Char) : dropMark ('[' :: text) = '[' :: text := rfl
  rw [parse?, toList_writeTable, noMark]
  obtain ⟨fuel, fuelEq⟩ : ∃ fuel, 2 * ('[' :: (name.toList ++ ']' :: '\n' ::
      entries.foldr entryChars [])).length + 4 = fuel + 2 := ⟨_, rfl⟩
  have header := readLine?_header bare fuel (entries.foldr entryChars [])
  have lines : (tableDocument name []).readAll? (fuel + 1) (entries.foldr entryChars []) =
      some (tableDocument name (textItems entries ++ [])) := by
    refine readAll?_entries name distinct (fun _ _ => rfl) ?_
    simp only [List.length_cons, List.length_append] at fuelEq
    omega
  rw [fuelEq, readAll?_of_readLine? (by decide) header, lines, List.append_nil]
  rfl

theorem mapM_text?_textItems (entries : List (String × String)) :
    ((textItems entries).mapM fun (key, item) => do return (key, ← item.text?)) =
      some entries.reverse := by
  rw [textItems, List.mapM_map]
  induction entries.reverse with
  | nil => rfl
  | cons entry entries ih =>
      rw [List.mapM_cons, ih]
      rfl

end Toml

namespace MacroFile

/-- A macro file holds the macros that were written to it. -/
theorem parse?_write (macros : NameMap String) : parse? (write macros) = some macros := by
  have bare : Toml.IsBareKey "macros" := ⟨by decide, by decide⟩
  rw [parse?, write, Toml.parse?_writeTable bare macros.nodup_names]
  change (Toml.Item.table .header (Toml.textItems macros.toList)).textTable? = some macros
  rw [Toml.Item.textTable?, Toml.mapM_text?_textItems]
  exact congrArg some (NameMap.ofList_of_perm (List.reverse_perm _))

end MacroFile
end CommandShell
