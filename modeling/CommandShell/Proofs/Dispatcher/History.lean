import CommandShell.Dispatcher
import Mathlib.Data.List.Induction

/-!
# Histories of dispatchers

The log of a dispatcher lists what its moves did to the lines that pass through it:
which were handed over, taken, and ended, and which signals and interrupts came in
between.  `Transition` tells the moves apart by what they do, and `History` is a
sequence of transitions with its log.  Every sequence of moves has a history, so a
property of a dispatcher and its log that each transition keeps holds after all
moves in all orders.
-/

namespace CommandShell
namespace Dispatcher

/-- What shows in the log of a dispatcher.  A line is `ended` whether it came to a
result or unwound, and nothing is taken once the slot is `finished`. -/
inductive Event where
  | prepared (line : String)
  | interrupted
  | taken (line : String) (token : Nat)
  | replied (signal : Session.Signal)
  | ended
  | finished

def submission : Session.Signal → List Event
  | .submit line => [.prepared line]
  | _ => []

def workEvents (dispatcher : Dispatcher) : List Event :=
  match dispatcher.worker with
  | .awake _ =>
      if dispatcher.slot.shuttingDown then []
      else match dispatcher.slot.pending with
        | none => []
        | some line => [.taken line dispatcher.tokens.issue.1]
  | .running _ _ (.ask signal _) => .replied signal :: submission signal
  | .running _ _ (.done (session, .ok _)) =>
      if session.exitRequested then [.ended, .finished] else [.ended]
  | .running _ _ (.done (_, .error _)) => [.ended]
  | .leaving _ => [.finished]
  | .absent _ | .asleep _ | .stopped _ | .joined => []

/-- What a move adds to the log. -/
def events (dispatcher : Dispatcher) : Move → List Event
  | .prepare line => [.prepared line]
  | .interrupt => [.interrupted]
  | .work => dispatcher.workEvents
  | _ => []

def log (dispatcher : Dispatcher) : List Move → List Event
  | [] => []
  | move :: moves =>
      match dispatcher.move? move with
      | none => []
      | some next => dispatcher.events move ++ next.log moves

/-- What a move does, with what it adds to the log.  Those who `attend` wait, release
or reserve, and `replies` are all but those to a line that is handed over. -/
inductive Transition (dispatcher : Dispatcher) : List Event → Dispatcher → Prop
  | begins {session : Session} (absent : dispatcher.worker = .absent session) :
      Transition dispatcher [] { dispatcher with worker := .awake session }
  | prepares (line : String) :
      Transition dispatcher [.prepared line] (dispatcher.prepare line)
  | interrupts : Transition dispatcher [.interrupted] dispatcher.interrupt
  | shutsDown : Transition dispatcher [] dispatcher.requestShutdown
  | attends (waiters : Waiters) (releases : Nat) (reserved : Bool) :
      Transition dispatcher [] { dispatcher with waiters, releases, reserved }
  | joins {session : Option Session}
      (stopped : dispatcher.worker = .stopped session) :
      Transition dispatcher [] { dispatcher with worker := .joined }
  | leaves {session : Session} (awake : dispatcher.worker = .awake session)
      (told : dispatcher.slot.shuttingDown = true) :
      Transition dispatcher []
        { dispatcher with worker := .leaving (some session) }
  | sleeps {session : Session} (awake : dispatcher.worker = .awake session)
      (empty : dispatcher.slot.pending = none) :
      Transition dispatcher [] { dispatcher with worker := .asleep session }
  | takes {session : Session} {line : String}
      (awake : dispatcher.worker = .awake session)
      (pending : dispatcher.slot.pending = some line) :
      Transition dispatcher [.taken line dispatcher.tokens.issue.1]
        { dispatcher with
          tokens := dispatcher.tokens.issue.2
          slot := dispatcher.slot.start dispatcher.tokens.issue.1
          worker := .running line dispatcher.tokens.issue.1
            (Session.run line session) }
  | replies {line : String} {token : Nat} {signal : Session.Signal}
      {resume : signal.Reply → RunningLine} {answer : signal.Reply}
      {replied : Dispatcher}
      (running : dispatcher.worker = .running line token (.ask signal resume))
      (reply : dispatcher.reply? token signal = some (answer, replied))
      (sameSlot : replied.slot = dispatcher.slot) :
      Transition dispatcher [.replied signal]
        { replied with worker := .running line token (resume answer) }
  | submits {line submitted : String} {token : Nat} {resume : Unit → RunningLine}
      (running : dispatcher.worker =
        .running line token (.ask (.submit submitted) resume)) :
      Transition dispatcher [.replied (.submit submitted), .prepared submitted]
        { dispatcher.prepare submitted with
          worker := .running line token (resume ()) }
  | ends {line : String} {token : Nat} {session : Session}
      {result : Except ShellError (Option Value)}
      (running : dispatcher.worker =
        .running line token (.done (session, .ok result)))
      (stays : session.exitRequested = false) :
      Transition dispatcher [.ended] (dispatcher.endStep session)
  | exits {line : String} {token : Nat} {session : Session}
      {result : Except ShellError (Option Value)}
      (running : dispatcher.worker =
        .running line token (.done (session, .ok result)))
      (exit : session.exitRequested = true) :
      Transition dispatcher [.ended, .finished] (dispatcher.endStep session)
  | unwinds {line : String} {token : Nat} {session : Session} {failure : Failure}
      (running : dispatcher.worker =
        .running line token (.done (session, .error failure))) :
      Transition dispatcher [.ended] { dispatcher with worker := .leaving none }
  | finishes {session : Option Session}
      (leaving : dispatcher.worker = .leaving session) :
      Transition dispatcher [.finished] (dispatcher.finish session)

variable {before after : Dispatcher}

theorem eq_of_join? {session : Option Session}
    (joined : before.join? = some (session, after)) :
    before.worker = .stopped session ∧ after = { before with worker := .joined } := by
  unfold join? at joined
  split at joined
  · next stopped _ =>
      cases joined
      exact ⟨stopped, rfl⟩
  · cases joined

/-- Whatever the signal, a reply changes no more than the outlets and the releases,
interrupts the line that runs, or hands over another one. -/
theorem effect_of_reply? {token : Nat} {signal : Session.Signal}
    {answer : signal.Reply}
    (reply : before.reply? token signal = some (answer, after)) :
    (∃ releases outlets, after = { before with releases, outlets }) ∨
      after = before.interrupt ∨
      ∃ line, signal = .submit line ∧ after = before.prepare line := by
  cases signal with
  | observe => cases reply; exact .inl ⟨_, _, rfl⟩
  | pause milliseconds => cases reply; exact .inl ⟨_, _, rfl⟩
  | await =>
      rw [reply?] at reply
      split at reply
      · cases reply
        exact .inl ⟨_, _, rfl⟩
      · split at reply
        · cases reply
        · cases reply
          exact .inl ⟨_, _, rfl⟩
  | cancel => cases reply; exact .inr (.inl rfl)
  | present item => cases reply; exact .inl ⟨_, _, rfl⟩
  | persist name body => cases reply; exact .inl ⟨_, _, rfl⟩
  | submit line => cases reply; exact .inr (.inr ⟨line, rfl, rfl⟩)

theorem interrupt_slot (dispatcher : Dispatcher) :
    dispatcher.interrupt.slot = dispatcher.slot := by
  unfold interrupt
  split <;> rfl

theorem slot_of_reply? {token : Nat} {signal : Session.Signal}
    {answer : signal.Reply} (submitsNone : submission signal = [])
    (reply : before.reply? token signal = some (answer, after)) :
    after.slot = before.slot := by
  rcases effect_of_reply? reply with
    ⟨releases, outlets, rfl⟩ | rfl | ⟨line, rfl, rfl⟩
  · rfl
  · exact interrupt_slot before
  · cases submitsNone

theorem transition_of_reply? {line : String} {token : Nat}
    {signal : Session.Signal} {resume : signal.Reply → RunningLine}
    {answer : signal.Reply} {replied : Dispatcher}
    (running : before.worker = .running line token (.ask signal resume))
    (reply : before.reply? token signal = some (answer, replied)) :
    Transition before (.replied signal :: submission signal)
      { replied with worker := .running line token (resume answer) } := by
  cases submissionEq : submission signal with
  | nil => exact .replies running reply (slot_of_reply? submissionEq reply)
  | cons event rest =>
      cases signal with
      | submit submitted =>
          cases submissionEq
          cases reply
          exact .submits running
      | _ => cases submissionEq

/-- What the worker does with one move of its own, in terms of the operations of the
dispatcher. -/
inductive Works (dispatcher : Dispatcher) : Dispatcher → Prop
  | leaves {session : Session} (awake : dispatcher.worker = .awake session)
      (told : dispatcher.slot.shuttingDown = true) :
      Works dispatcher { dispatcher with worker := .leaving (some session) }
  | sleeps {session : Session} (awake : dispatcher.worker = .awake session)
      (untold : dispatcher.slot.shuttingDown = false)
      (empty : dispatcher.slot.pending = none) :
      Works dispatcher { dispatcher with worker := .asleep session }
  | takes {session : Session} {line : String}
      (awake : dispatcher.worker = .awake session)
      (untold : dispatcher.slot.shuttingDown = false)
      (pending : dispatcher.slot.pending = some line) :
      Works dispatcher { dispatcher with
        tokens := dispatcher.tokens.issue.2
        slot := dispatcher.slot.start dispatcher.tokens.issue.1
        worker := .running line dispatcher.tokens.issue.1
          (Session.run line session) }
  | replies {line : String} {token : Nat} {signal : Session.Signal}
      {resume : signal.Reply → RunningLine} {answer : signal.Reply}
      {replied : Dispatcher}
      (running : dispatcher.worker = .running line token (.ask signal resume))
      (reply : dispatcher.reply? token signal = some (answer, replied)) :
      Works dispatcher { replied with worker := .running line token (resume answer) }
  | ends {line : String} {token : Nat} {session : Session}
      {result : Except ShellError (Option Value)}
      (running : dispatcher.worker =
        .running line token (.done (session, .ok result))) :
      Works dispatcher (dispatcher.endStep session)
  | unwinds {line : String} {token : Nat} {session : Session} {failure : Failure}
      (running : dispatcher.worker =
        .running line token (.done (session, .error failure))) :
      Works dispatcher { dispatcher with worker := .leaving none }
  | finishes {session : Option Session}
      (leaving : dispatcher.worker = .leaving session) :
      Works dispatcher (dispatcher.finish session)

theorem works_of_work? (worked : before.work? = some after) :
    Works before after := by
  cases worker : before.worker with
  | awake session =>
      obtain rfl : before.look session = after := by
        simpa [work?, worker] using worked
      unfold look
      cases told : before.slot.shuttingDown with
      | true => exact .leaves worker told
      | false =>
          cases pending : before.slot.pending with
          | none => exact .sleeps worker told pending
          | some line => exact .takes worker told pending
  | running line token rest =>
      cases rest with
      | ask signal resume =>
          obtain ⟨answer, replied, reply, rfl⟩ : ∃ answer replied,
              before.reply? token signal = some (answer, replied) ∧
                { replied with worker := .running line token (resume answer) } =
                  after := by
            simpa [work?, worker, Option.bind_eq_some_iff] using worked
          exact .replies worker reply
      | done result =>
          obtain ⟨session, failure | result⟩ := result
          · obtain rfl : { before with worker := .leaving none } = after := by
              simpa [work?, worker] using worked
            exact .unwinds worker
          · obtain rfl : before.endStep session = after := by
              simpa [work?, worker] using worked
            exact .ends worker
  | leaving session =>
      obtain rfl : before.finish session = after := by
        simpa [work?, worker] using worked
      exact .finishes worker
  | absent session | asleep session | stopped session | joined =>
      simp [work?, worker] at worked

theorem transition_of_work? (worked : before.work? = some after) :
    Transition before before.workEvents after := by
  unfold workEvents
  cases works_of_work? worked with
  | leaves awake told => simpa [awake, told] using Transition.leaves awake told
  | sleeps awake untold empty =>
      simpa [awake, untold, empty] using Transition.sleeps awake empty
  | takes awake untold pending =>
      simpa [awake, untold, pending] using Transition.takes awake pending
  | replies running reply =>
      rw [running]
      exact transition_of_reply? running reply
  | @ends _ _ session _ running =>
      cases exit : session.exitRequested with
      | true => simpa [running, exit] using Transition.exits running exit
      | false => simpa [running, exit] using Transition.ends running exit
  | unwinds running => simpa [running] using Transition.unwinds running
  | finishes leaving => simpa [leaving] using Transition.finishes leaving

/-- What each move makes of a dispatcher, and what it needs to happen. -/
inductive Moved (dispatcher : Dispatcher) : Move → Dispatcher → Prop
  | begin {session : Session} (absent : dispatcher.worker = .absent session) :
      Moved dispatcher .begin { dispatcher with worker := .awake session }
  | prepare (line : String) :
      Moved dispatcher (.prepare line) (dispatcher.prepare line)
  | interrupt : Moved dispatcher .interrupt dispatcher.interrupt
  | release : Moved dispatcher .release dispatcher.release
  | requestShutdown : Moved dispatcher .requestShutdown dispatcher.requestShutdown
  | reserve (unreserved : dispatcher.reserved = false) :
      Moved dispatcher .reserve { dispatcher with reserved := true }
  | join {session : Option Session} (stopped : dispatcher.worker = .stopped session) :
      Moved dispatcher .join { dispatcher with worker := .joined }
  | work {after : Dispatcher} (worked : dispatcher.work? = some after) :
      Moved dispatcher .work after
  | wait (waiter : Nat) : Moved dispatcher (.wait waiter) (dispatcher.wait waiter)
  | recheck {waiter : Nat} (awake : waiter ∈ dispatcher.waiters.awake) :
      Moved dispatcher (.recheck waiter) { dispatcher with
        waiters := Waiters.look { dispatcher.waiters with
          awake := dispatcher.waiters.awake.erase waiter } waiter
          dispatcher.slot.settled }
  | giveUp {waiter : Nat} (asleep : waiter ∈ dispatcher.waiters.asleep) :
      Moved dispatcher (.giveUp waiter) { dispatcher with
        waiters := { dispatcher.waiters with
          asleep := dispatcher.waiters.asleep.erase waiter } }

theorem moved_of_move? {move : Move} (moved : before.move? move = some after) :
    Moved before move after := by
  cases move with
  | begin =>
      change before.begin? = some after at moved
      unfold begin? at moved
      split at moved
      · next absent =>
          cases moved
          exact .begin absent
      · cases moved
  | prepare line => cases moved; exact .prepare line
  | interrupt => cases moved; exact .interrupt
  | release => cases moved; exact .release
  | requestShutdown => cases moved; exact .requestShutdown
  | reserve =>
      change before.reserve? = some after at moved
      unfold reserve? at moved
      split at moved
      · cases moved
      · split at moved
        · cases moved
        · next unreserved =>
            cases moved
            exact .reserve (Bool.eq_false_iff.2 unreserved)
  | join =>
      obtain ⟨⟨session, joined⟩, collected, rfl⟩ := Option.map_eq_some_iff.1 moved
      obtain ⟨stopped, rfl⟩ := eq_of_join? collected
      exact .join stopped
  | work => exact .work moved
  | wait waiter => cases moved; exact .wait waiter
  | recheck waiter =>
      change before.recheck? waiter = some after at moved
      unfold recheck? at moved
      split at moved
      · next awake =>
          cases moved
          exact .recheck awake
      · cases moved
  | giveUp waiter =>
      change before.giveUp? waiter = some after at moved
      unfold giveUp? at moved
      split at moved
      · next asleep =>
          cases moved
          exact .giveUp asleep
      · cases moved

theorem transition_of_move? {move : Move} (moved : before.move? move = some after) :
    Transition before (before.events move) after := by
  cases moved_of_move? moved with
  | begin absent => exact .begins absent
  | prepare line => exact .prepares line
  | interrupt => exact .interrupts
  | release => exact .attends before.waiters _ before.reserved
  | requestShutdown => exact .shutsDown
  | reserve => exact .attends before.waiters before.releases true
  | join stopped => exact .joins stopped
  | work worked => exact transition_of_work? worked
  | wait | recheck | giveUp => exact .attends _ before.releases before.reserved

inductive History (start : Dispatcher) : List Event → Dispatcher → Prop
  | refl : History start [] start
  | snoc {log events : List Event} {before after : Dispatcher}
      (earlier : History start log before)
      (last : Transition before events after) :
      History start (log ++ events) after

theorem History.cons {start next final : Dispatcher} {events log : List Event}
    (first : Transition start events next) (later : History next log final) :
    History start (events ++ log) final := by
  induction later with
  | refl => simpa using History.refl.snoc first
  | snoc earlier last ih =>
      rw [← List.append_assoc]
      exact ih.snoc last

/-- Every sequence of moves has a history. -/
theorem history_of_moves? {start final : Dispatcher} {moves : List Move}
    (moved : start.moves? moves = some final) :
    History start (start.log moves) final := by
  induction moves generalizing start with
  | nil =>
      cases moved
      exact .refl
  | cons move moves ih =>
      rw [moves?, List.foldlM_cons] at moved
      obtain ⟨next, first, later⟩ := Option.bind_eq_some_iff.1 moved
      rw [log, first]
      exact .cons (transition_of_move? first) (ih later)

theorem moves?_append_iff {start final : Dispatcher} {moves later : List Move} :
    start.moves? (moves ++ later) = some final ↔
      ∃ middle, start.moves? moves = some middle ∧
        middle.moves? later = some final := by
  rw [moves?, List.foldlM_append]
  exact Option.bind_eq_some_iff

theorem moves?_singleton {move : Move} :
    before.moves? [move] = before.move? move :=
  List.foldlM_cons.trans (bind_pure _)

/-- What holds at the start and is kept by every move holds after all moves. -/
theorem moves?_induction {start final : Dispatcher}
    {motive : List Move → Dispatcher → Prop} (begins : motive [] start)
    (step : ∀ moves before move after, start.moves? moves = some before →
      motive moves before → before.move? move = some after →
      motive (moves ++ [move]) after)
    {moves : List Move} (moved : start.moves? moves = some final) :
    motive moves final := by
  induction moves using List.reverseRecOn generalizing final with
  | nil =>
      cases moved
      exact begins
  | append_singleton moves move ih =>
      obtain ⟨before, earlier, last⟩ := moves?_append_iff.1 moved
      rw [moves?_singleton] at last
      exact step moves before move final earlier (ih earlier) last

end Dispatcher
end CommandShell
