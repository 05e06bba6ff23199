import CommandShell.Proofs.Session.Soundness

/-!
# Taking over stored macros

Stored macros are added to a table in ascending name order, except where a name is taken, until
one of them has an invalid name.  `adopts` says what the table has then: all of them, or those in
front of the first that cannot be added.
-/

namespace CommandShell

namespace MacroTable

variable {table : MacroTable} {stored : NameMap String} {front rest : List (String × String)}
variable {name body : String}

theorem edit_of_valid (table : MacroTable) (body : String)
    (valid : isValidName name = true) : table.edit name body = .ok (table.insert name body) := by
  rw [MacroTable.edit, checkName_eq_ok_iff.2 valid]
  rfl

theorem edit_of_invalid (table : MacroTable) (body : String) (invalid : isValidName name = false) :
    table.edit name body = .error (.badUsage s!"\"{name}\" is not a valid macro name") := by
  rw [MacroTable.edit, checkName, invalid]
  rfl

theorem adopt_cons_of_taken (taken : table.contains name = true) :
    table.adopt ((name, body) :: rest) = table.adopt rest := by
  rw [adopt, if_pos taken]

theorem adopt_cons_of_valid (free : table.contains name = false)
    (valid : isValidName name = true) :
    table.adopt ((name, body) :: rest) = MacroTable.adopt (table.insert name body) rest := by
  rw [adopt, if_neg (ne_true_of_eq_false free), edit_of_valid table body valid]

theorem adopt_cons_of_invalid (free : table.contains name = false)
    (invalid : isValidName name = false) :
    table.adopt ((name, body) :: rest) =
      (table, .error (.badUsage s!"\"{name}\" is not a valid macro name")) := by
  rw [adopt, if_neg (ne_true_of_eq_false free), edit_of_invalid table body invalid]

/-- Entries whose names are taken or valid are all taken over, except where a name is taken. -/
theorem exists_adopt_append
    (fit : ∀ entry ∈ front, table.contains entry.1 = true ∨ isValidName entry.1 = true) :
    ∃ extended : MacroTable, (∀ rest, table.adopt (front ++ rest) = extended.adopt rest) ∧
      ∀ name, extended.find? name = (table.find? name <|> NameMap.lookup name front) := by
  induction front generalizing table with
  | nil => exact ⟨table, fun rest => rfl, fun name => by simp [NameMap.lookup]⟩
  | cons entry front ih =>
      obtain ⟨name, body⟩ := entry
      obtain ⟨entryFits, fit⟩ := List.forall_mem_cons.1 fit
      cases taken : table.contains name with
      | true =>
          obtain ⟨extended, adopted, found⟩ := ih fit
          refine ⟨extended, fun rest => (adopt_cons_of_taken taken).trans (adopted rest),
            fun other => ?_⟩
          rw [found, NameMap.lookup]
          split
          · next same =>
              obtain ⟨kept, keptEq⟩ := Option.isSome_iff_exists.1 taken
              rw [← same, keptEq]
              rfl
          · rfl
      | false =>
          have valid : isValidName name = true := entryFits.resolve_left (by simp [taken])
          have fitExtended : ∀ entry ∈ front,
              (table.insert name body).contains entry.1 = true ∨ isValidName entry.1 = true := by
            intro entry listed
            refine (fit entry listed).imp_left fun taken => ?_
            rw [NameMap.contains, NameMap.find?_insert]
            split
            · rfl
            · exact taken
          obtain ⟨extended, adopted, found⟩ := ih fitExtended
          refine ⟨extended, fun rest => (adopt_cons_of_valid taken valid).trans (adopted rest),
            fun other => ?_⟩
          rw [found, NameMap.find?_insert, NameMap.lookup]
          by_cases same : other = name
          · subst same
            simp [NameMap.contains_eq_false_iff.1 taken]
          · simp [same, Ne.symm same]

/-- A stored name that is neither taken nor valid. -/
def Obstructs (table : MacroTable) (stored : NameMap String) (name : String) : Prop :=
  stored.contains name = true ∧ table.contains name = false ∧ isValidName name = false

/-- What adding the macros of a storage comes to. -/
inductive Adopts (table : MacroTable) (stored : NameMap String) :
    MacroTable × Except ShellError Unit → Prop
  | all {after : MacroTable} (fits : ∀ name, ¬ table.Obstructs stored name)
      (found : ∀ name, after.find? name = (table.find? name <|> stored.find? name)) :
      Adopts table stored (after, .ok ())
  | front {after : MacroTable} {first : String} (obstructs : table.Obstructs stored first)
      (least : ∀ name, table.Obstructs stored name → first ≤ name)
      (found : ∀ name, after.find? name =
        (table.find? name <|> if name < first then stored.find? name else none)) :
      Adopts table stored
        (after, .error (.badUsage s!"\"{first}\" is not a valid macro name"))

theorem obstructs_iff :
    table.Obstructs stored name ↔ ∃ body, (name, body) ∈ stored.toList ∧
      (!table.contains name && !isValidName name) = true := by
  simp only [Obstructs, NameMap.contains, Option.isSome_iff_exists, NameMap.mem_toList_iff]
  simp

theorem adopts (table : MacroTable) (stored : NameMap String) :
    table.Adopts stored (table.adopt stored.toList) := by
  let obstructs (entry : String × String) : Bool :=
    !table.contains entry.1 && !isValidName entry.1
  have fit_of_not (entry : String × String) (fits : ¬ obstructs entry = true) :
      table.contains entry.1 = true ∨ isValidName entry.1 = true := by
    simpa [obstructs, Decidable.or_iff_not_imp_left] using fits
  cases first : stored.toList.find? obstructs with
  | none =>
      have fits := List.find?_eq_none.1 first
      obtain ⟨after, adopted, found⟩ := exists_adopt_append fun entry listed =>
        fit_of_not entry (fits entry listed)
      have adopted : table.adopt stored.toList = (after, .ok ()) := by
        rw [← List.append_nil stored.toList, adopted]
        rfl
      rw [adopted]
      refine .all (fun name obstructed => ?_) found
      obtain ⟨body, listed, obstructing⟩ := obstructs_iff.1 obstructed
      exact fits (name, body) listed obstructing
  | some entry =>
      obtain ⟨obstructing, front, rest, split, fits⟩ := List.find?_eq_some_iff_append.1 first
      obtain ⟨name, body⟩ := entry
      have lookups := NameMap.lookup_front split
      obtain ⟨after, adopted, found⟩ := exists_adopt_append fun entry listed =>
        fit_of_not entry (by simpa using fits entry listed)
      simp only [lookups] at found
      have obstructed : table.Obstructs stored name :=
        obstructs_iff.2 ⟨body, List.mem_of_find?_eq_some first, obstructing⟩
      have free : after.contains name = false := by
        rw [NameMap.contains_eq_false_iff, found, NameMap.contains_eq_false_iff.1 obstructed.2.1,
          if_neg (String.lt_irrefl name)]
        rfl
      rw [split, adopted, adopt_cons_of_invalid free obstructed.2.2]
      refine .front obstructed (fun other otherObstructed => ?_) found
      refine String.not_lt.1 fun smaller => ?_
      obtain ⟨body, listed, obstructing⟩ := obstructs_iff.1 otherObstructed
      have inFront := (lookups other).trans (if_pos smaller)
      rw [NameMap.mem_toList_iff.1 listed] at inFront
      have fits := fits _ (NameMap.mem_of_lookup_eq_some inFront)
      rw [show obstructs (other, body) = true from obstructing] at fits
      cases fits

theorem adopt_of_valid (table : MacroTable) (valid : MacroTable.Valid stored) :
    ∃ after, table.adopt stored.toList = (after, .ok ()) ∧
      ∀ name, after.find? name = (table.find? name <|> stored.find? name) := by
  have adopted := table.adopts stored
  generalize table.adopt stored.toList = result at adopted
  cases adopted with
  | all fits found => exact ⟨_, rfl, found⟩
  | front obstructs least found =>
      obtain ⟨contained, -, invalid⟩ := obstructs
      obtain ⟨body, bodyEq⟩ := Option.isSome_iff_exists.1 contained
      cases invalid.symm.trans (valid _ body bodyEq)

theorem adopt_empty {bodies : MacroTable} (valid : bodies.Valid) :
    adopt ∅ bodies.toList = (bodies, .ok ()) := by
  obtain ⟨after, adopted, found⟩ := adopt_of_valid ∅ valid
  rw [adopted, NameMap.ext_find? found]

theorem adopt_empty_of_not_valid {bodies : MacroTable} (invalid : ¬ bodies.Valid) :
    ∃ left error, adopt ∅ bodies.toList = (left, .error error) := by
  have adopted := adopts ∅ bodies
  generalize adopt ∅ bodies.toList = result at adopted
  cases adopted with
  | all fits =>
      refine absurd (fun name body found => ?_) invalid
      by_contra refused
      exact fits name ⟨Option.isSome_of_eq_some found, rfl, Bool.eq_false_iff.2 refused⟩
  | front => exact ⟨_, _, rfl⟩

end MacroTable

end CommandShell
