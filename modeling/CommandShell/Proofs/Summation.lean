import CommandShell.Proofs.Builtins
import CommandShell.Proofs.Session.Execution
import CommandShell.Proofs.Line.RoundTrip

/-!
# Adding integers up

`sum` adds 64-bit integers from left to right, and each of the totals on the way has to be such an
integer too.  If they all are, the last of them is exactly the sum, and if one is not, the step
panics and is taken back.  What matters are the totals on the way: a list may be refused although
its sum is in range.
-/

namespace CommandShell

namespace Builtin

open CommandShell.Task (Yields)

/-- A total that is a 64-bit integer. -/
def InRange (total : Int) : Prop := -2 ^ 63 ≤ total ∧ total < 2 ^ 63

/-- The exact sum of integers. -/
def exactSum (numbers : List Int64) : Int :=
  numbers.foldr (fun number sum => number.toInt + sum) 0

@[simp]
theorem exactSum_nil : exactSum [] = 0 := rfl

@[simp]
theorem exactSum_cons (number : Int64) (numbers : List Int64) :
    exactSum (number :: numbers) = number.toInt + exactSum numbers := rfl

/-- Every total on the way is in range, from the empty one to the last. -/
def Fits (numbers : List Int64) : Prop :=
  ∀ front, front <+: numbers → InRange (exactSum front)

theorem inRange_toInt (number : Int64) : InRange number.toInt := by
  have lower := number.le_toInt
  have upper := number.toInt_lt
  exact ⟨lower, upper⟩

theorem toInt64?_eq_none_iff {total : Int} : Text.toInt64? total = none ↔ ¬ InRange total := by
  have least : Int64.minValue.toInt = -2 ^ 63 := rfl
  have greatest : Int64.maxValue.toInt = 2 ^ 63 - 1 := rfl
  simp only [Text.toInt64?, InRange, least, greatest]
  split
  · simp
    omega
  · simp
    omega

theorem forall_prefix_cons {start number : Int64} {numbers : List Int64} :
    (∀ front, front <+: number :: numbers → InRange (start.toInt + exactSum front)) ↔
      ∀ front, front <+: numbers → InRange (start.toInt + number.toInt + exactSum front) := by
  constructor
  · intro inRange front isPrefix
    have cons := inRange (number :: front) (List.cons_prefix_cons.2 ⟨rfl, isPrefix⟩)
    rwa [exactSum_cons, ← Int.add_assoc] at cons
  · intro inRange front isPrefix
    rcases List.prefix_cons_iff.1 isPrefix with rfl | ⟨rest, rfl, restPrefix⟩
    · simpa using inRange_toInt start
    · rw [exactSum_cons, ← Int.add_assoc]
      exact inRange rest restPrefix

/-- Adding numbers to a total gives the exact sum, provided that no total on the way leaves the
range. -/
theorem addUp_eq_some_iff {start result : Int64} {numbers : List Int64} :
    addUp start numbers = some result ↔
      (∀ front, front <+: numbers → InRange (start.toInt + exactSum front)) ∧
        result.toInt = start.toInt + exactSum numbers := by
  induction numbers generalizing start with
  | nil =>
      have inRange := inRange_toInt start
      simp [addUp, Int64.toInt_inj, eq_comm, inRange]
  | cons number numbers ih =>
      rw [forall_prefix_cons, exactSum_cons, ← Int.add_assoc, addUp]
      cases next : Text.toInt64? (start.toInt + number.toInt) with
      | none =>
          have outOfRange := toInt64?_eq_none_iff.1 next
          constructor
          · intro impossible
            cases impossible
          · rintro ⟨inRange, -⟩
            have first := inRange [] (List.nil_prefix)
            rw [exactSum_nil, Int.add_zero] at first
            exact absurd first outOfRange
      | some total =>
          have totalEq := Text.toInt64?_eq_some_iff.1 next
          simp only [ih, totalEq]

theorem addUp_zero_eq_some_iff {result : Int64} {numbers : List Int64} :
    addUp 0 numbers = some result ↔ Fits numbers ∧ result.toInt = exactSum numbers := by
  rw [addUp_eq_some_iff]
  simp [Fits]

theorem addUp_zero_eq_none_iff {numbers : List Int64} :
    addUp 0 numbers = none ↔ ¬ Fits numbers := by
  constructor
  · intro overflows fits
    cases total : Text.toInt64? (exactSum numbers) with
    | none => exact toInt64?_eq_none_iff.1 total (fits numbers (List.prefix_refl numbers))
    | some result =>
        have added := addUp_zero_eq_some_iff.2 ⟨fits, Text.toInt64?_eq_some_iff.1 total⟩
        cases overflows.symm.trans added
  · intro unfit
    cases added : addUp 0 numbers with
    | none => rfl
    | some result => exact absurd (addUp_zero_eq_some_iff.1 added).1 unfit

/-- A value that is given to be added up stands for numbers: a list of them, or a single one. -/
inductive StandsFor : Value → List Int64 → Prop
  | list (numbers : List Int64) : StandsFor (.list (numbers.map .integer)) numbers
  | single (number : Int64) : StandsFor (.integer number) [number]

/-- What the command ends with. -/
def summed (numbers : List Int64) : Except Failure Value :=
  match addUp 0 numbers with
  | some total => .ok (.integer total)
  | none => .error (.panic "attempt to add with overflow")

theorem handler_sumCommand (info : ModuleInfo) {bundle : Bundle} {value : Value}
    {numbers : List Int64} (found : bundle.get? "values" = some value)
    (standsFor : StandsFor value numbers) :
    sumCommand.handler info bundle = Task.done (summed numbers) := by
  have argument : bundle.argument "values" = .ok value := by rw [Bundle.argument, found]
  unfold sumCommand
  dsimp only
  rw [argument, Handler.ofExcept, pure_bind, summed]
  cases standsFor with
  | single number =>
      have next : Text.toInt64? ((0 : Int64).toInt + number.toInt) = some number :=
        Text.toInt64?_eq_some_iff.2 (by simp)
      simp only [addUp, next]
      rfl
  | list =>
      have first : (numbers.map Value.integer).find? (fun item => item.kind != .integer) =
          none := by
        simp [Value.kind]
      dsimp only
      rw [listOf_list, first]
      simp only [mapM_asInteger, Handler.ofExcept, pure_bind]
      cases addUp 0 numbers <;> rfl

/-- What a step comes to that adds numbers up. -/
structure SumsUp (line : String) (before : Session) (numbers : List Int64) : Prop where
  exact : Fits numbers → ∃ total : Int64, total.toInt = exactSum numbers ∧
    Session.Executes line before { before with previous := some (.integer total) }
      (.ok (some (.integer total)))
  overflows : ¬ Fits numbers →
    Session.Executes line before { before with exitRequested := false }
      (.error (.panicked "attempt to add with overflow"))
  /-- No surroundings can make it end with anything but the exact sum. -/
  only : ∀ exchanges after value?,
    Yields (Session.step line before) exchanges (after, .ok value?) →
      Fits numbers ∧ ∃ total : Int64, value? = some (.integer total) ∧
        total.toInt = exactSum numbers

variable {line : String} {before : Session} {owner : Module} {bundle : Bundle}
variable {value : Value} {numbers : List Int64}

theorem sumsUp_of_read
    (reads : before.read line = .ok (some ⟨owner, sumCommand, bundle⟩))
    (found : bundle.get? "values" = some value) (standsFor : StandsFor value numbers) :
    SumsUp line before numbers := by
  have runs : Session.runHandler (Session.evaluate 63) before
      (sumCommand.handler owner.info bundle) = .done (before, summed numbers) := by
    rw [handler_sumCommand owner.info found standsFor]
    rfl
  constructor
  · intro fits
    cases added : addUp 0 numbers with
    | none => exact absurd fits (addUp_zero_eq_none_iff.1 added)
    | some total =>
        rw [summed, added] at runs
        exact ⟨total, (addUp_zero_eq_some_iff.1 added).2, Session.executes_of_read reads runs rfl⟩
  · intro unfit
    rw [summed, addUp_zero_eq_none_iff.2 unfit] at runs
    exact Session.executes_of_panic reads runs
  · intro exchanges after value? steps
    have ended := Session.value_of_done reads runs steps
    rw [summed] at ended
    cases added : addUp 0 numbers with
    | none =>
        rw [added] at ended
        cases ended
    | some total =>
        rw [added] at ended
        cases ended
        obtain ⟨fits, exact⟩ := addUp_zero_eq_some_iff.1 added
        exact ⟨fits, total, rfl, exact⟩

/-- The previous output can be added up. -/
theorem read_sum_previous
    (resolved : before.registry.resolve (.bare "sum") = .ok (owner, sumCommand))
    (previous : before.previous = some value) :
    before.read "sum values=^" =
      .ok (some ⟨owner, sumCommand, Bundle.withArgument {} "values" value⟩) := by
  have tokenized : tokenize "sum values=^" =
      .ok ((CommandName.bare "sum").tokens ++
        [Bundle.ItemForm.keyed "values" .previous []].flatMap Bundle.ItemForm.tokens) := by
    decide +kernel
  have adds : [Bundle.ItemForm.keyed "values" .previous []].foldlM
      (Bundle.ItemForm.add? before.previous) {} = some (Bundle.withArgument {} "values" value) := by
    rw [previous]
    rfl
  rw [Session.read_items _ tokenized trivial adds, resolved]
  rfl

/-- `sum` yields the exact sum if every total on the way is in range, and otherwise it panics and
is taken back. -/
theorem sums_exactly_or_panics :
    (∀ line before owner bundle value numbers,
      Session.read before line = .ok (some ⟨owner, sumCommand, bundle⟩) →
        bundle.get? "values" = some value → StandsFor value numbers →
          SumsUp line before numbers) ∧
    ∀ (before : Session) owner numbers,
      before.registry.resolve (.bare "sum") = .ok (owner, sumCommand) →
        before.previous = some (.list (numbers.map .integer)) →
          SumsUp "sum values=^" before numbers := by
  constructor
  · intro line before owner bundle value numbers reads found standsFor
    exact sumsUp_of_read reads found standsFor
  · intro before owner numbers resolved previous
    exact sumsUp_of_read (read_sum_previous resolved previous) rfl (.list numbers)

/-- A module with no command of its own but `sum`. -/
def calculator : Module where
  name := "m"
  version := "1"
  color := .plain
  commands := ⟨[("sum", sumCommand)], List.pairwise_singleton _ _⟩

/-- A session whose previous output is a list of numbers. -/
def holding (numbers : List Int64) : Session where
  registry := ⟨[("m", calculator)], List.pairwise_singleton _ _⟩
  previous := some (.list (numbers.map .integer))

/-- The sum of no numbers is zero.  The largest integer, one and minus one are not added up,
although their sum is in range. -/
theorem sums_nothing_but_not_past_the_largest :
    (∀ numbers, (holding numbers).registry.resolve (.bare "sum") = .ok (calculator, sumCommand)) ∧
      Session.Executes "sum values=^" (holding [])
        { holding [] with previous := some (.integer 0) } (.ok (some (.integer 0))) ∧
      InRange (exactSum [Int64.maxValue, 1, -1]) ∧
      Session.Executes "sum values=^" (holding [Int64.maxValue, 1, -1])
        (holding [Int64.maxValue, 1, -1])
        (.error (.panicked "attempt to add with overflow")) := by
  have resolved (numbers : List Int64) :
      (holding numbers).registry.resolve (.bare "sum") = .ok (calculator, sumCommand) := rfl
  have inRange : InRange (exactSum [Int64.maxValue, 1, -1]) := inRange_toInt Int64.maxValue
  refine ⟨resolved, ?_, inRange, ?_⟩
  · have fits : Fits [] := (addUp_zero_eq_some_iff.1 (by rfl : addUp 0 [] = some 0)).1
    obtain ⟨total, exact, executes⟩ :=
      (sums_exactly_or_panics.2 (holding []) calculator [] (resolved []) rfl).exact fits
    have isZero : total = 0 := Int64.toInt_inj.1 exact
    exact isZero ▸ executes
  · have overflows : addUp 0 [Int64.maxValue, 1, -1] = none := by decide +kernel
    have reads := read_sum_previous (resolved [Int64.maxValue, 1, -1]) rfl
    exact (sums_exactly_or_panics.1 _ _ _ _ _ _ reads rfl
      (.list [Int64.maxValue, 1, -1])).overflows (addUp_zero_eq_none_iff.1 overflows)

end Builtin
end CommandShell
