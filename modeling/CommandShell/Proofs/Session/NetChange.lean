import CommandShell.Proofs.Session.Interruption

/-!
# What a step stores

A step compares the macros after it with those before it and stores the difference,
however they came about.  `NetChange` says what the difference of two tables is and in
which order it is stored; applied to the first table it gives the second.

How storing a macro turns out has no effect on anything: a conversation in which other
replies are given to it takes the step to the same end.
-/

namespace CommandShell

namespace MacroTable

/-- The changes that lead from one table to another: each body that is new or different
and then each name that is gone, both in ascending name order. -/
structure NetChange (before after : MacroTable)
    (changes : List (String × Option String)) : Prop where
  ordered : ∃ (stored : List (String × String)) (removed : List String),
    changes = stored.map (fun entry => (entry.1, some entry.2)) ++
      removed.map (fun name => (name, none)) ∧
    (stored.map (·.1)).Pairwise (· < ·) ∧ removed.Pairwise (· < ·)
  stored : ∀ name body, (name, some body) ∈ changes ↔
    after.find? name = some body ∧ before.find? name ≠ some body
  removed : ∀ name, (name, none) ∈ changes ↔
    before.contains name = true ∧ after.find? name = none

variable {before after : MacroTable} {changes : List (String × Option String)}

theorem netChange_changes (before after : MacroTable) :
    NetChange before after (MacroTable.changes before after) where
  ordered := by
    refine ⟨after.toList.filter fun entry => before.find? entry.1 != some entry.2,
      (before.toList.filter fun entry => (after.find? entry.1).isNone).map (·.1),
      ?_, ?_, ?_⟩
    · rw [MacroTable.changes, List.map_map]
      rfl
    · exact List.pairwise_map.2 (after.ascending.sublist List.filter_sublist)
    · exact List.pairwise_map.2 (before.ascending.sublist List.filter_sublist)
  stored name body := by
    simp [MacroTable.changes, NameMap.mem_toList_iff]
  removed name := by
    simp [MacroTable.changes, NameMap.mem_toList_iff, NameMap.contains,
      Option.isSome_iff_exists]

theorem changes_self (table : MacroTable) : MacroTable.changes table table = [] := by
  refine List.eq_nil_iff_forall_not_mem.2 fun ⟨name, body?⟩ listed => ?_
  cases body? with
  | some body =>
      obtain ⟨found, different⟩ := (netChange_changes table table).stored name body |>.1 listed
      exact different found
  | none =>
      obtain ⟨defined, missing⟩ := (netChange_changes table table).removed name |>.1 listed
      rw [NameMap.contains, missing] at defined
      cases defined

/-- No name is changed twice. -/
theorem NetChange.nodup (net : NetChange before after changes) :
    (changes.map (·.1)).Nodup := by
  obtain ⟨stored, removed, rfl, storedAscending, removedAscending⟩ := net.ordered
  have removedEq : (removed.map fun name => (name, (none : Option String))).map (·.1) =
      removed := by
    rw [List.map_map]
    exact List.map_id removed
  rw [List.map_append, List.map_map, removedEq, List.nodup_append]
  refine ⟨storedAscending.imp fun below same => ?_,
    removedAscending.imp fun below same => ?_, ?_⟩
  · exact String.lt_irrefl _ (same ▸ below)
  · exact String.lt_irrefl _ (same ▸ below)
  · rintro name nameStored _ nameRemoved rfl
    obtain ⟨entry, listed, rfl⟩ := List.mem_map.1 nameStored
    have kept := (net.stored entry.1 entry.2).1
      (List.mem_append_left _ (List.mem_map.2 ⟨entry, listed, rfl⟩))
    have gone := (net.removed entry.1).1
      (List.mem_append_right _ (List.mem_map.2 ⟨entry.1, nameRemoved, rfl⟩))
    cases kept.1.symm.trans gone.2

@[simp]
theorem find?_applyChange (table : MacroTable) (change : String × Option String)
    (name : String) :
    (table.applyChange change).find? name =
      if name = change.1 then change.2 else table.find? name := by
  obtain ⟨changed, _ | body⟩ := change <;> simp [applyChange]

/-- Made on any table, the changes from one table to another show what the second table has where
it differs from the first, and nowhere else. -/
theorem NetChange.find?_foldl (net : NetChange before after changes) (table : MacroTable)
    (name : String) :
    (changes.foldl applyChange table).find? name =
      if after.find? name = before.find? name then table.find? name else after.find? name := by
  by_cases changed : name ∈ changes.map (·.1)
  · obtain ⟨⟨_, body?⟩, listed, rfl⟩ := List.mem_map.1 changed
    rw [NameMap.find?_foldl_of_mem find?_applyChange net.nodup listed]
    cases body? with
    | some body =>
        obtain ⟨found, different⟩ := (net.stored _ body).1 listed
        rw [found, if_neg different.symm]
    | none =>
        obtain ⟨contained, gone⟩ := (net.removed _).1 listed
        rw [gone, if_neg (Option.isSome_iff_ne_none.1 contained).symm]
  · rw [NameMap.find?_foldl_of_not_mem find?_applyChange changed, if_pos]
    by_contra different
    cases found : after.find? name with
    | some body =>
        have stored := (net.stored name body).2
          ⟨found, fun same => different (found.trans same.symm)⟩
        exact changed (List.mem_map_of_mem stored)
    | none =>
        have contained : before.contains name = true :=
          Option.isSome_iff_ne_none.2 fun missing => different (found.trans missing.symm)
        exact changed (List.mem_map_of_mem ((net.removed name).2 ⟨contained, found⟩))

/-- The changes from one table to another make the second of the first. -/
theorem NetChange.replay (net : NetChange before after changes) :
    changes.foldl applyChange before = after := by
  refine NameMap.ext_find? fun name => ?_
  rw [net.find?_foldl]
  split
  · next same => exact same.symm
  · rfl

end MacroTable

namespace Session

open CommandShell.Task (Yields Ignores Alike yields_ask_iff yields_bind_iff yields_done_iff)

/-- The change of a macro that a signal asks to store. -/
def Signal.change? : Signal → Option (String × Option String)
  | .persist name body => some (name, body)
  | _ => none

/-- The changes that a conversation asks to store, in order. -/
def persisted (exchanges : List (Exchange signals)) : List (String × Option String) :=
  exchanges.filterMap fun exchange => Signal.change? exchange.1

section Persisted

variable {exchanges others : List (Exchange signals)}

theorem persisted_append (first second : List (Exchange signals)) :
    persisted (first ++ second) = persisted first ++ persisted second :=
  List.filterMap_append

theorem change?_eq_none_iff {signal : Signal} :
    signal.change? = none ↔ ¬ signal.Stores := by
  cases signal <;> simp [Signal.change?, Signal.Stores]

theorem persisted_of_storesNothing (storesNothing : StoresNothing exchanges) :
    persisted exchanges = [] :=
  List.filterMap_eq_nil_iff.2 fun exchange listed =>
    change?_eq_none_iff.2 (storesNothing exchange listed)

theorem persisted_persistAll {changes : List (String × Option String)}
    (yields : Yields (persistAll changes) exchanges ()) : persisted exchanges = changes := by
  induction changes generalizing exchanges with
  | nil =>
      obtain ⟨rfl, -⟩ := yields_done_iff.1 yields
      rfl
  | cons change rest ih =>
      obtain ⟨answer, later, rfl, resumed⟩ := yields_ask_iff.1 yields
      exact congrArg (change :: ·) (ih resumed)

theorem persisted_eq_of_alike (alike : Alike Signal.Stores exchanges others) :
    persisted exchanges = persisted others := by
  induction alike with
  | nil => rfl
  | @cons exchange other _ _ same _ ih =>
      have signalEq : exchange.1 = other.1 := same.elim (congrArg _) And.left
      rw [persisted, persisted, List.filterMap_cons, List.filterMap_cons, signalEq]
      cases Signal.change? other.1 with
      | none => exact ih
      | some change => exact congrArg (change :: ·) ih

end Persisted

section Steps

variable {line : String} {before after : Session} {exchanges : List (Exchange signals)}

/-- However a step ends, it asks to store the difference between the macros after it
and those before. -/
theorem persisted_step {result : Except ShellError (Option Value)}
    (yields : Yields (step line before) exchanges (after, result)) :
    persisted exchanges = MacroTable.changes before.macros after.macros := by
  obtain ⟨during, changed, evaluated, asked, stored, rfl, evaluation, verdict, settled⟩ :=
    yields_step yields
  rw [persisted_append, persisted_append,
    persisted_of_storesNothing (evaluate_storesNothing evaluation),
    persisted_of_storesNothing (verdict_storesNothing verdict), List.nil_append,
    List.nil_append]
  cases settled with
  | aborts => exact (MacroTable.changes_self _).symm
  | commits commit persisted =>
      have macrosEq : (changed.remember result).macros = changed.macros := by
        unfold remember
        split <;> rfl
      rw [persisted_persistAll persisted, macrosEq]

theorem persisted_run {outcome : Except Failure (Except ShellError (Option Value))}
    (yields : Yields (run line before) exchanges (after, outcome)) :
    persisted exchanges = MacroTable.changes before.macros after.macros := by
  rcases yields_run_or yields with
    ⟨echo, rfl, -⟩ | ⟨echoed, ran, shown, result, rfl, echo, stepping, shows, -⟩
  · rw [persisted_of_storesNothing (storesNothing_of_presents [.echo line] echo),
      MacroTable.changes_self]
  · rw [persisted_append, persisted_append,
      persisted_of_storesNothing (storesNothing_of_presents [.echo line] echo),
      persisted_of_storesNothing (storesNothing_of_presents _ shows),
      persisted_step stepping, List.nil_append, List.append_nil]

theorem ignores_persistAll (changes : List (String × Option String)) :
    (persistAll changes).Ignores Signal.Stores := by
  induction changes with
  | nil => trivial
  | cons change changes ih => exact ⟨fun _ _ _ => rfl, fun _ => ih⟩

theorem ignores_step (line : String) (before : Session) :
    (step line before).Ignores Signal.Stores := by
  refine (Ignores.of_ensures (quiet_evaluate maxCallDepth line before)).bind
    fun ⟨changed, evaluated⟩ => ?_
  -- the verdict looks at a reply, but that is whether the step was cancelled
  have ignoresVerdict : (verdict evaluated).Ignores Signal.Stores := by
    rcases evaluated with (error | text) | value?
    · trivial
    · trivial
    · refine ⟨False.elim, fun isSet => ?_⟩
      cases isSet <;> trivial
  refine ignoresVerdict.bind fun result => ?_
  cases step.abort result with
  | true => trivial
  | false => exact (ignores_persistAll _).bind fun _ => trivial

theorem ignores_presentOutside (item : Presentation) :
    (presentOutside item).Ignores Signal.Stores := by
  refine ⟨False.elim, fun delivery => ?_⟩
  cases delivery <;> trivial

theorem ignores_run (line : String) (before : Session) :
    (run line before).Ignores Signal.Stores := by
  refine (ignores_presentOutside _).bind fun delivered => ?_
  cases delivered with
  | error failure => trivial
  | ok =>
      refine (ignores_step line before).bind fun ⟨after, result⟩ => ?_
      dsimp only
      cases closing result with
      | none => trivial
      | some item =>
          refine (ignores_presentOutside item).bind fun delivered => ?_
          cases delivered <;> trivial

end Steps

/-- A conversation of a task asks to store exactly the net change of the macros.  How
storing them turns out makes no difference to the task: with any other replies to it, the
same changes are stored and the end is the same. -/
structure StoresNetChange {α : Type} (task : Task signals (Session × α))
    (before after : Session) (value : α) (exchanges : List (Exchange signals)) : Prop where
  net : MacroTable.NetChange before.macros after.macros (persisted exchanges)
  distinct : ((persisted exchanges).map (·.1)).Nodup
  replay : (persisted exchanges).foldl MacroTable.applyChange before.macros = after.macros
  indifferent : ∀ others, Alike Signal.Stores exchanges others →
    persisted others = persisted exchanges ∧ Yields task others (after, value)

theorem storesNetChange_of_ignores {α : Type} {task : Task signals (Session × α)}
    {before after : Session} {value : α} {exchanges : List (Exchange signals)}
    (ignores : task.Ignores Signal.Stores) (yields : Yields task exchanges (after, value))
    (stored : persisted exchanges = MacroTable.changes before.macros after.macros) :
    StoresNetChange task before after value exchanges := by
  have net := MacroTable.netChange_changes before.macros after.macros
  rw [← stored] at net
  exact ⟨net, net.nodup, net.replay, fun others alike =>
    ⟨(persisted_eq_of_alike alike).symm, ignores.yields yields alike⟩⟩

/-- A step, whether it is made by itself or as a part of `run`, stores exactly the net
change of the macros.  That is nothing at all if the step is taken back. -/
theorem storesNetChange_of_step_or_run (line : String) (before after : Session)
    (exchanges : List (Exchange signals)) :
    (∀ result, Yields (step line before) exchanges (after, result) →
      StoresNetChange (step line before) before after result exchanges) ∧
    ∀ outcome, Yields (run line before) exchanges (after, outcome) →
      StoresNetChange (run line before) before after outcome exchanges := by
  constructor
  · intro result yields
    exact storesNetChange_of_ignores (ignores_step line before) yields (persisted_step yields)
  · intro outcome yields
    exact storesNetChange_of_ignores (ignores_run line before) yields (persisted_run yields)

/-- A handler that makes a number of changes, some of which cancel out, and fails. -/
def shuffle : Handler Value := do
  Handler.editMacro "b" "3"
  let _ ← Handler.deleteMacro "a"
  let _ ← Handler.deleteMacro "d"
  Handler.addMacro "c" "x"
  let _ ← Handler.deleteMacro "c"
  Handler.addMacro "c" "y"
  Handler.addMacro "d" "4"
  Handler.fail (.badUsage "no")

def unshuffled : Session :=
  { ofHandler shuffle with macros := .ofList [("a", "1"), ("b", "2"), ("d", "4")] }

def shuffled : Session :=
  { ofHandler shuffle with macros := .ofList [("b", "3"), ("c", "y"), ("d", "4")] }

/-- Three changes are stored although the step fails, and the second and third although
the first cannot be stored. -/
theorem storesNetChange_of_shuffle :
    Yields (step "go" unshuffled)
      [⟨.observe, false⟩, ⟨.persist "b" (some "3"), .error "full"⟩,
        ⟨.persist "c" (some "y"), .ok ()⟩, ⟨.persist "a" none, .ok ()⟩]
      (shuffled, .error (.badUsage "no")) ∧
    StoresNetChange (step "go" unshuffled) unshuffled shuffled (.error (.badUsage "no"))
      [⟨.observe, false⟩, ⟨.persist "b" (some "3"), .error "full"⟩,
        ⟨.persist "c" (some "y"), .ok ()⟩, ⟨.persist "a" none, .ok ()⟩] := by
  have reads : unshuffled.read "go" =
      .ok (some ⟨goModule shuffle, goCommand shuffle, {}⟩) :=
    read_name (by decide) rfl rfl
  have stepped : Yields (step "go" unshuffled)
      [⟨.observe, false⟩, ⟨.persist "b" (some "3"), .error "full"⟩,
        ⟨.persist "c" (some "y"), .ok ()⟩, ⟨.persist "a" none, .ok ()⟩]
      (shuffled, .error (.badUsage "no")) := by
    rw [step_of_read reads]
    delta runHandler
    exact .ask (.ask (.ask (.ask (.refl _))))
  exact ⟨stepped, (storesNetChange_of_step_or_run "go" _ _ _).1 _ stepped⟩

end Session
end CommandShell
