import CommandShell.Proofs.Dispatcher.Standing

/-!
# How lines are handed over

`Taken` ties a log to the worker: the lines that it takes have tokens of their own,
and each ends before the next one is taken.  Together with `Standing` this tells how
all lines were handed over, for what became of a prepared line can be read off the
first place after it that concerns the pending line.
-/

namespace CommandShell

def Worker.isRunning : Worker → Bool
  | .running .. => true
  | _ => false

namespace Dispatcher

def Event.taken? : Event → Option (String × Nat)
  | .taken line token => some (line, token)
  | _ => none

variable {log events : List Event} {event : Event}
variable {source target : Nat} {line : String} {token : Nat}

section Issued

variable {before after : Dispatcher}

@[simp]
theorem isRunning_notify (worker : Worker) :
    worker.notify.isRunning = worker.isRunning := by
  cases worker <;> rfl

@[simp]
theorem prepare_isRunning (dispatcher : Dispatcher) (line : String) :
    (dispatcher.prepare line).worker.isRunning =
      dispatcher.worker.isRunning := by
  unfold prepare
  split
  · rfl
  · exact isRunning_notify _

@[simp]
theorem prepare_tokens (dispatcher : Dispatcher) (line : String) :
    (dispatcher.prepare line).tokens = dispatcher.tokens := by
  unfold prepare
  split <;> rfl

@[simp]
theorem interrupt_issued (dispatcher : Dispatcher) :
    dispatcher.interrupt.tokens.flags.length =
      dispatcher.tokens.flags.length := by
  unfold interrupt
  split
  · exact List.length_set
  · rfl

theorem issued_of_reply? {signal : Session.Signal} {answer : signal.Reply}
    (reply : before.reply? token signal = some (answer, after)) :
    after.tokens.flags.length = before.tokens.flags.length := by
  rcases effect_of_reply? reply with
    ⟨releases, outlets, rfl⟩ | rfl | ⟨line, -, rfl⟩
  · rfl
  · exact interrupt_issued before
  · rw [prepare_tokens]

end Issued

/-- How a log fits the worker: the tokens that were issued, and whether a line
runs. -/
structure Taken (log : List Event) (issued : Nat) (running : Bool) : Prop where
  issues : ∀ (place : Nat) (line : String) (token : Nat),
    log[place]? = some (.taken line token) → token < issued
  fresh : ∀ (first second : Nat) (line other : String) (token : Nat),
    log[first]? = some (.taken line token) →
    log[second]? = some (.taken other token) → first = second
  alone : ∀ (first second : Nat) (line other : String) (token later : Nat),
    log[first]? = some (.taken line token) →
    log[second]? = some (.taken other later) → first < second →
    ∃ between, first < between ∧ between < second ∧ log[between]? = some .ended
  rests : running = false →
    ∀ (place : Nat) (line : String) (token : Nat),
      log[place]? = some (.taken line token) →
      ∃ later, place < later ∧ log[later]? = some .ended

namespace Taken

variable {issued : Nat} {running : Bool}

theorem new : Taken [] 0 false := by
  constructor <;> simp

theorem snoc (taken : Taken log issued running)
    (takesNone : event.taken? = none) :
    Taken (log ++ [event]) issued running := by
  have earlier : ∀ {place : Nat} {line : String} {token : Nat},
      (log ++ [event])[place]? = some (.taken line token) →
        log[place]? = some (.taken line token) := by
    intro place line token found
    rcases getElem?_snoc_iff.1 found with found | ⟨-, same⟩
    · exact found
    · rw [← same] at takesNone
      cases takesNone
  constructor
  · intro place line token found
    exact taken.issues place line token (earlier found)
  · intro first second line other token foundFirst foundSecond
    exact taken.fresh first second line other token (earlier foundFirst)
      (earlier foundSecond)
  · intro first second line other token later foundFirst foundSecond before
    obtain ⟨between, after, before, ended⟩ := taken.alone first second line other
      token later (earlier foundFirst) (earlier foundSecond) before
    exact ⟨between, after, before, getElem?_snoc_iff.2 (.inl ended)⟩
  · intro resting place line token found
    obtain ⟨later, after, ended⟩ :=
      taken.rests resting place line token (earlier found)
    exact ⟨later, after, getElem?_snoc_iff.2 (.inl ended)⟩

theorem ended (taken : Taken log issued running) :
    Taken (log ++ [.ended]) issued false := by
  have takesNone : Event.ended.taken? = none := rfl
  obtain ⟨issues, fresh, alone, -⟩ := taken.snoc takesNone
  refine ⟨issues, fresh, alone, fun _ place line token found => ?_⟩
  rcases getElem?_snoc_iff.1 found with found | ⟨-, same⟩
  · exact ⟨log.length, lt_length_of_getElem? found,
      getElem?_snoc_iff.2 (.inr ⟨rfl, rfl⟩)⟩
  · cases same

theorem taken (taken : Taken log issued false) (line : String) :
    Taken (log ++ [.taken line issued]) (issued + 1) true := by
  constructor
  · intro place other token found
    rcases getElem?_snoc_iff.1 found with found | ⟨-, same⟩
    · have tokenLt := taken.issues place other token found
      omega
    · cases same
      omega
  · intro first second line other token foundFirst foundSecond
    rcases getElem?_snoc_iff.1 foundFirst with foundFirst | ⟨rfl, same⟩ <;>
    rcases getElem?_snoc_iff.1 foundSecond with foundSecond | ⟨rfl, same'⟩
    · exact taken.fresh first second line other token foundFirst foundSecond
    · cases same'
      exact absurd (taken.issues _ _ _ foundFirst) (Nat.lt_irrefl _)
    · cases same
      exact absurd (taken.issues _ _ _ foundSecond) (Nat.lt_irrefl _)
    · rfl
  · intro first second line other token later foundFirst foundSecond before
    rcases getElem?_snoc_iff.1 foundFirst with foundFirst | ⟨rfl, -⟩
    · obtain ⟨ending, after, ended⟩ :=
        taken.rests rfl first line token foundFirst
      have endingLt := lt_length_of_getElem? ended
      rcases getElem?_snoc_iff.1 foundSecond with foundSecond | ⟨rfl, -⟩
      · obtain ⟨between, after, before, ended⟩ := taken.alone first second line
          other token later foundFirst foundSecond before
        exact ⟨between, after, before, getElem?_snoc_iff.2 (.inl ended)⟩
      · exact ⟨ending, after, endingLt, getElem?_snoc_iff.2 (.inl ended)⟩
    · have secondLt := lt_length_of_getElem? foundSecond
      rw [List.length_append, List.length_singleton] at secondLt
      omega
  · nofun

theorem transition {before after : Dispatcher}
    (taken : Taken log before.tokens.flags.length before.worker.isRunning)
    (happened : Transition before events after) :
    Taken (log ++ events) after.tokens.flags.length after.worker.isRunning := by
  cases happened with
  | prepares line =>
      rw [prepare_tokens, prepare_isRunning]
      exact taken.snoc rfl
  | interrupts =>
      rw [interrupt_worker, interrupt_issued]
      exact taken.snoc rfl
  | shutsDown =>
      rw [List.append_nil]
      simpa [requestShutdown] using taken
  | attends =>
      rw [List.append_nil]
      exact taken
  | begins rests | joins rests | leaves rests | sleeps rests =>
      rw [rests] at taken
      rw [List.append_nil]
      exact taken
  | takes awake =>
      rw [awake] at taken
      simpa [Tokens.issue, Worker.isRunning] using taken.taken _
  | replies running reply =>
      rw [running] at taken
      dsimp only
      rw [issued_of_reply? reply]
      exact taken.snoc rfl
  | @submits _ submitted _ _ running =>
      rw [running] at taken
      dsimp only
      rw [prepare_tokens]
      have replied : Taken (log ++ [.replied (.submit submitted)])
          before.tokens.flags.length true := taken.snoc rfl
      have prepared : Taken (log ++ [.replied (.submit submitted)] ++
          [.prepared submitted]) before.tokens.flags.length true :=
        replied.snoc rfl
      rw [List.append_assoc] at prepared
      exact prepared
  | ends _ stays =>
      rw [endStep, stays]
      exact taken.ended
  | exits _ exit =>
      rw [endStep, exit]
      have finished : Taken (log ++ [.ended] ++ [.finished])
          before.tokens.flags.length false := taken.ended.snoc rfl
      rw [List.append_assoc] at finished
      exact finished
  | unwinds => exact taken.ended
  | finishes leaving =>
      rw [leaving] at taken
      exact taken.snoc rfl

end Taken

/-- What has become of a line that was prepared at a place of a log: the worker has
taken it, it is still pending, a later line replaced it first, the worker finished
first, or the worker had finished before. -/
inductive Fate (log : List Event) (slot : Slot) (source : Nat) (line : String) :
    Prop
  | taken {target : Nat} (passes : Passes log source target line) :
      Fate log slot source line
  | waiting (pending : slot.pending = some line)
      (untouched : Untouched log source log.length) : Fate log slot source line
  | replaced {later : Nat} {newer : String} (after : source < later)
      (prepared : log[later]? = some (.prepared newer))
      (untouched : Untouched log source later) : Fate log slot source line
  | discarded {stop : Nat} (after : source < stop)
      (finished : log[stop]? = some .finished)
      (untouched : Untouched log source stop) : Fate log slot source line
  | dropped {stop : Nat} (before : stop < source)
      (finished : log[stop]? = some .finished) : Fate log slot source line

/-- How lines pass from those who prepare them to the worker: each that is taken was
prepared before, none is taken twice or out of order, none is lost, each has ended
when the next one is taken, and each has a token of its own. -/
structure HandedOff (log : List Event) (slot : Slot) : Prop where
  passes : ∀ (target : Nat) (line : String) (token : Nat),
    log[target]? = some (.taken line token) →
    ∃ source, Passes log source target line
  ordered : ∀ (source target other later : Nat) (line newer : String),
    Passes log source target line → Passes log other later newer →
    target < later → source < other
  fates : ∀ (source : Nat) (line : String),
    log[source]? = some (.prepared line) → Fate log slot source line
  alone : ∀ (first second : Nat) (line other : String) (token later : Nat),
    log[first]? = some (.taken line token) →
    log[second]? = some (.taken other later) → first < second →
    ∃ between, first < between ∧ between < second ∧ log[between]? = some .ended
  fresh : ∀ (first second : Nat) (line other : String) (token : Nat),
    log[first]? = some (.taken line token) →
    log[second]? = some (.taken other token) → first = second

theorem Passes.lt_of_lt {other later : Nat} {newer : String}
    (passes : Passes log source target line)
    (passes' : Passes log other later newer) (before : target < later) :
    target < other := by
  obtain ⟨token, taken⟩ := passes.taken
  by_contra notLt
  have otherNe : other ≠ target := by
    rintro rfl
    cases taken.symm.trans passes'.prepared
  have otherLt : other < target := by omega
  have touches := passes'.untouched target _ otherLt before taken
  cases touches

/-- The line that is taken at a place is the one whose preparation was the last
event to change what is pending. -/
theorem Passes.source_eq {stands : Nat} {newer : String}
    (passes : Passes log source target line) (before : stands < target)
    (prepared : log[stands]? = some (.prepared newer))
    (untouched : Untouched log stands target) : source = stands := by
  rcases Nat.lt_trichotomy source stands with earlier | same | later
  · cases passes.untouched stands _ earlier before prepared
  · exact same
  · cases untouched source _ later passes.before passes.prepared

theorem fate_of_standing {slot : Slot}
    (standing : Standing log slot.pending slot.finished)
    (prepared : log[source]? = some (.prepared line)) :
    Fate log slot source line := by
  rcases untouched_or_first_touch log source with
    untouched | ⟨place, event, after, found, touches, untouched⟩
  · cases finished : slot.finished with
    | false =>
        have pending : slot.pending = some line :=
          (standing.awaits line).2 ⟨finished, source, prepared, untouched⟩
        exact .waiting pending untouched
    | true =>
        obtain ⟨stop, stopLt, stopEq⟩ :=
          List.getElem_of_mem (standing.closes.1 finished)
        have found := List.getElem?_eq_some_iff.2 ⟨stopLt, stopEq⟩
        rcases Nat.lt_trichotomy stop source with earlier | rfl | later
        · exact .dropped earlier found
        · cases found.symm.trans prepared
        · cases untouched stop _ later stopLt found
  · cases event with
    | prepared newer => exact .replaced after found untouched
    | taken other token =>
        obtain ⟨stands, passes⟩ := standing.passes place other token found
        obtain rfl := passes.source_eq after prepared untouched
        cases passes.prepared.symm.trans prepared
        exact .taken passes
    | finished => exact .discarded after found untouched
    | interrupted => cases touches
    | replied signal => cases touches
    | ended => cases touches

theorem handedOff {slot : Slot} {issued : Nat} {running : Bool}
    (standing : Standing log slot.pending slot.finished)
    (taken : Taken log issued running) : HandedOff log slot where
  passes := standing.passes
  ordered source target other later line newer passes passes' before := by
    have targetLt := passes.lt_of_lt passes' before
    have sourceLt := passes.before
    omega
  fates source line prepared := fate_of_standing standing prepared
  alone := taken.alone
  fresh := taken.fresh

end Dispatcher
end CommandShell
