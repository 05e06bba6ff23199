import CommandShell.Proofs.Dispatcher.HandOff

/-!
# How a dispatcher stops

A finished slot stays finished, whatever happens to it, and nothing passes through
it any more (`Closed`).  Nobody sleeps through the end: `Alert` says that waiters
sleep only while the slot is not settled, and the worker only while it has nothing
to take and is not told to stop.  What the worker leaves is collected at most once.
-/

namespace CommandShell

namespace Slot

theorem settled_prepare {slot : Slot} (unfinished : slot.finished = false)
    (line : String) : (slot.prepare line).settled = false := by
  simp [settled, prepare, unfinished]

theorem settled_start {slot : Slot} (unfinished : slot.finished = false)
    (token : Nat) : (slot.start token).settled = false := by
  rw [settled, start, unfinished]
  rfl

end Slot

namespace Worker

theorem notify_ne_asleep (worker : Worker) (session : Session) :
    worker.notify ≠ .asleep session := by
  cases worker <;> simp [notify]

def isJoined : Worker → Bool
  | .joined => true
  | _ => false

@[simp]
theorem isJoined_notify (worker : Worker) : worker.notify.isJoined = worker.isJoined := by
  cases worker <;> rfl

theorem eq_joined_of_isJoined {worker : Worker} (joined : worker.isJoined = true) :
    worker = .joined := by
  cases worker <;> first | rfl | cases joined

end Worker

namespace Dispatcher

variable {before after : Dispatcher} {move : Move} {log events : List Event}

/-- Nobody sleeps who has something to do. -/
structure Alert (dispatcher : Dispatcher) : Prop where
  waiters : dispatcher.slot.settled = true → dispatcher.waiters.asleep = []
  worker : ∀ session, dispatcher.worker = .asleep session →
    dispatcher.slot.pending = none ∧ dispatcher.slot.shuttingDown = false

namespace Alert

theorem new (session : Session) (display : Display) (store : Option MacroStore) :
    (Dispatcher.new session display store).Alert :=
  ⟨fun _ => rfl, nofun⟩

theorem prepare (alert : before.Alert) (line : String) :
    (before.prepare line).Alert := by
  unfold Dispatcher.prepare
  split
  · exact alert
  · next open_ =>
      have unsettled := Slot.settled_prepare (Bool.eq_false_iff.2 open_) line
      refine ⟨fun settled => ?_, fun session asleep => ?_⟩
      · exact absurd (unsettled.symm.trans settled) (by decide)
      · exact absurd asleep (Worker.notify_ne_asleep _ _)

theorem interrupt (alert : before.Alert) : before.interrupt.Alert := by
  have waitersEq : before.interrupt.waiters = before.waiters := by
    unfold Dispatcher.interrupt
    split <;> rfl
  constructor
  · rw [interrupt_slot, waitersEq]
    exact alert.waiters
  · rw [interrupt_slot, interrupt_worker]
    exact alert.worker

/-- A waiter that looks at the slot goes to sleep only if it is not settled. -/
theorem look (waiters : before.slot.settled = true → before.waiters.asleep = [])
    (awake : List Nat) (waiter : Nat) :
    before.slot.settled = true →
      (Waiters.look { before.waiters with awake } waiter
        before.slot.settled).asleep = [] := by
  intro settled
  rw [Waiters.look, if_pos settled]
  exact waiters settled

theorem reply? {token : Nat} {signal : Session.Signal} {answer : signal.Reply}
    (alert : before.Alert)
    (reply : before.reply? token signal = some (answer, after)) :
    after.slot.settled = true → after.waiters.asleep = [] := by
  rcases effect_of_reply? reply with
    ⟨releases, outlets, rfl⟩ | rfl | ⟨line, -, rfl⟩
  · exact alert.waiters
  · exact alert.interrupt.waiters
  · exact (alert.prepare line).waiters

theorem work? (coherent : before.Coherent) (alert : before.Alert)
    (worked : before.work? = some after) : after.Alert := by
  have agrees := coherent.agrees
  cases works_of_work? worked with
  | leaves | unwinds => exact ⟨alert.waiters, nofun⟩
  | sleeps awake untold empty => exact ⟨alert.waiters, fun _ _ => ⟨empty, untold⟩⟩
  | takes awake =>
      rw [awake] at agrees
      have unsettled := Slot.settled_start agrees.1 before.tokens.issue.1
      exact ⟨fun settled => absurd (unsettled.symm.trans settled) (by decide), nofun⟩
  | replies running reply =>
      have waiters := alert.reply? reply
      exact ⟨waiters, nofun⟩
  | @ends _ _ session =>
      refine ⟨fun _ => rfl, fun sleeper asleep => ?_⟩
      unfold endStep at asleep
      cases exit : session.exitRequested <;> simp [exit] at asleep
  | finishes => exact ⟨fun _ => rfl, nofun⟩

theorem move? (coherent : before.Coherent) (alert : before.Alert)
    (moved : before.move? move = some after) : after.Alert := by
  cases moved_of_move? moved with
  | begin => exact ⟨alert.waiters, nofun⟩
  | prepare line => exact alert.prepare line
  | interrupt => exact alert.interrupt
  | release | reserve => exact ⟨alert.waiters, alert.worker⟩
  | requestShutdown =>
      exact ⟨alert.waiters, fun session asleep =>
        absurd asleep (Worker.notify_ne_asleep _ _)⟩
  | join => exact ⟨alert.waiters, nofun⟩
  | work worked => exact alert.work? coherent worked
  | wait waiter => exact ⟨look alert.waiters before.waiters.awake waiter, alert.worker⟩
  | @recheck waiter => exact ⟨look alert.waiters _ waiter, alert.worker⟩
  | giveUp =>
      refine ⟨fun settled => ?_, alert.worker⟩
      dsimp only
      rw [alert.waiters settled, List.erase_nil]

end Alert

section Closed

/-- The worker has stopped for good: the slot is idle and empty, lines that are
prepared are dropped, and no line runs. -/
structure Closed (dispatcher : Dispatcher) : Prop where
  finished : dispatcher.slot.finished = true
  idle : dispatcher.slot.activity = .idle
  pending : dispatcher.slot.pending = none
  current : dispatcher.slot.current = none
  drops : ∀ line, dispatcher.prepare line = dispatcher
  rests : dispatcher.worker.isRunning = false

theorem closed_of_finished (coherent : before.Coherent)
    (finished : before.slot.finished = true) : before.Closed := by
  obtain ⟨idle, pending, current⟩ := coherent.sound.finished finished
  refine ⟨finished, idle, pending, current, fun line => ?_, ?_⟩
  · rw [prepare, if_pos finished]
  · have agrees := coherent.agrees
    cases worker : before.worker with
    | running line token rest =>
        rw [worker] at agrees
        exact absurd (agrees.1.symm.trans finished) (by decide)
    | _ => rfl

/-- A finished slot stays finished, and no line is taken from it. -/
theorem finished_of_transition (coherent : before.Coherent)
    (finished : before.slot.finished = true)
    (happened : Transition before events after) :
    after.slot.finished = true ∧ events.filterMap Event.taken? = [] := by
  have agrees := coherent.agrees
  cases happened with
  | prepares line =>
      rw [prepare_slot, Slot.prepare_finished]
      exact ⟨finished, rfl⟩
  | interrupts =>
      rw [interrupt_slot]
      exact ⟨finished, rfl⟩
  | takes awake =>
      rw [awake] at agrees
      exact absurd (agrees.1.symm.trans finished) (by decide)
  | replies running | submits running | ends running | exits running =>
      rw [running] at agrees
      exact absurd (agrees.1.symm.trans finished) (by decide)
  | finishes => exact ⟨rfl, rfl⟩
  | _ => exact ⟨finished, rfl⟩

theorem finished_of_history (coherent : before.Coherent)
    (finished : before.slot.finished = true) (happened : History before log after) :
    after.slot.finished = true ∧ log.filterMap Event.taken? = [] := by
  induction happened with
  | refl => exact ⟨finished, rfl⟩
  | snoc earlier last ih =>
      obtain ⟨still, none⟩ :=
        finished_of_transition (coherent.history earlier) ih.1 last
      exact ⟨still, by rw [List.filterMap_append, ih.2, none, List.append_nil]⟩

theorem closed_of_moves? {moves : List Move} (coherent : before.Coherent)
    (finished : before.slot.finished = true)
    (moved : before.moves? moves = some after) :
    after.Closed ∧ (before.log moves).filterMap Event.taken? = [] := by
  have happened := history_of_moves? moved
  obtain ⟨still, none⟩ := finished_of_history coherent finished happened
  exact ⟨closed_of_finished (coherent.history happened) still, none⟩

end Closed

section Joined

theorem isJoined_of_work? (worked : before.work? = some after) :
    after.worker.isJoined = before.worker.isJoined := by
  cases works_of_work? worked with
  | leaves awake | sleeps awake | takes awake =>
      rw [awake]
      rfl
  | replies running | unwinds running =>
      rw [running]
      rfl
  | @ends _ _ session _ running =>
      rw [running, endStep]
      cases session.exitRequested <;> rfl
  | finishes leaving =>
      rw [leaving]
      rfl

/-- The worker is joined by the move of that name alone, and only once. -/
theorem isJoined_of_move? (moved : before.move? move = some after) :
    after.worker.isJoined.toNat =
      before.worker.isJoined.toNat + [move].count .join := by
  cases moved_of_move? moved with
  | begin absent =>
      rw [absent]
      rfl
  | prepare line =>
      unfold prepare
      split
      · rfl
      · simp
  | interrupt =>
      rw [interrupt_worker]
      rfl
  | requestShutdown => simp [requestShutdown]
  | join stopped =>
      rw [stopped]
      rfl
  | work worked =>
      rw [isJoined_of_work? worked]
      rfl
  | release | reserve | wait | recheck | giveUp => rfl

theorem isJoined_of_moves? {moves : List Move}
    (moved : before.moves? moves = some after) :
    after.worker.isJoined.toNat =
      before.worker.isJoined.toNat + moves.count .join := by
  refine moves?_induction (motive := fun moves after =>
    after.worker.isJoined.toNat =
      before.worker.isJoined.toNat + moves.count .join) rfl ?_ moved
  intro moves middle move last _ ih moved
  rw [isJoined_of_move? moved, ih, List.count_append, Nat.add_assoc]

theorem isJoined_mono {moves : List Move} (joined : before.worker.isJoined = true)
    (moved : before.moves? moves = some after) : after.worker.isJoined = true := by
  have counted := isJoined_of_moves? moved
  rw [joined, Bool.toNat_true] at counted
  cases joined' : after.worker.isJoined with
  | true => rfl
  | false =>
      rw [joined', Bool.toNat_false] at counted
      omega

theorem settle_of_isJoined (joined : before.worker.isJoined = true) (fuel : Nat) :
    settle fuel before = before := by
  have stays : before.work? = none := by
    rw [work?, Worker.eq_joined_of_isJoined joined]
  cases fuel with
  | zero => rfl
  | succ fuel => rw [settle, stays]

theorem join?_of_isJoined (joined : before.worker.isJoined = true) :
    before.join? = none := by
  rw [join?, Worker.eq_joined_of_isJoined joined]

/-- Nothing is left to collect from a worker that has been joined. -/
theorem shutdown_of_isJoined (joined : before.worker.isJoined = true) (fuel : Nat) :
    (before.shutdown fuel).1 = none := by
  have still : before.requestShutdown.worker.isJoined = true := by
    rw [requestShutdown, Worker.isJoined_notify, joined]
  cases reserved : before.requestShutdown.reserve? with
  | none => simp [shutdown, reserved]
  | some held =>
      have reserves : before.requestShutdown.moves? [.reserve] = some held :=
        moves?_singleton.trans reserved
      have heldJoined := isJoined_mono still reserves
      simp [shutdown, reserved, settle_of_isJoined heldJoined,
        join?_of_isJoined heldJoined]

/-- Whoever gets the session leaves the worker joined. -/
theorem isJoined_of_shutdown {fuel : Nat} {session : Session}
    (returned : before.shutdown fuel = (some session, after)) :
    after.worker.isJoined = true := by
  unfold shutdown at returned
  cases reserved : before.requestShutdown.reserve? with
  | none => simp [reserved] at returned
  | some held =>
      simp only [reserved] at returned
      cases collected : (settle fuel held).join? with
      | none => simp [collected] at returned
      | some result =>
          obtain ⟨left, joined⟩ := result
          simp only [collected, Prod.mk.injEq] at returned
          obtain ⟨rfl, rfl⟩ := returned
          rw [(eq_of_join? collected).2]
          rfl

end Joined

/-- Stopping is final, and nobody sleeps through it.  The section that ends a step
after which an exit is asked for closes the dispatcher for good, and so does
everything else that finishes the slot: no line is taken any more.  No sleeper is
forgotten, also if a panic ends the worker.  The session is collected at most once,
and after one shutdown has got it none does. -/
theorem closed_and_alert_of_moves? {session : Session} {display : Display}
    {store : Option MacroStore} {moves : List Move} {reached : Dispatcher}
    (moved : (Dispatcher.new session display store).moves? moves = some reached) :
    (∀ line token left result,
      reached.worker = .running line token (.done (left, .ok result)) →
      left.exitRequested = true →
        reached.move? .work = some (reached.endStep left) ∧
        ∀ later final, (reached.endStep left).moves? later = some final →
          final.Closed) ∧
      (reached.slot.finished = true →
        ∀ later final, reached.moves? later = some final →
          final.Closed ∧ (reached.log later).filterMap Event.taken? = []) ∧
      reached.Alert ∧
      moves.count .join ≤ 1 ∧
      ∀ fuel returned after,
        reached.shutdown fuel = (some returned, after) →
        ∀ later final, after.moves? later = some final →
          ∀ fuel', (final.shutdown fuel').1 = none := by
  have coherent := (Coherent.new session display store).history (history_of_moves? moved)
  refine ⟨?_, fun finished _ _ => closed_of_moves? coherent finished, ?_, ?_, ?_⟩
  · intro line token left result running exit
    have worked : reached.move? .work = some (reached.endStep left) := by
      change reached.work? = _
      rw [work?, running]
    refine ⟨worked, fun later final moved' => ?_⟩
    have coherent' := coherent.transition (transition_of_move? worked)
    have finished : (reached.endStep left).slot.finished = true := by
      rw [endStep, exit]
      rfl
    exact (closed_of_moves? coherent' finished moved').1
  · refine (moves?_induction
      (motive := fun _ reached => reached.Coherent ∧ reached.Alert)
      ⟨.new session display store, .new session display store⟩ ?_ moved).2
    rintro _ before _ after - ⟨coherent, alert⟩ last
    exact ⟨coherent.transition (transition_of_move? last),
      alert.move? coherent last⟩
  · have counted := isJoined_of_moves? moved
    have joinedLe := reached.worker.isJoined.toNat_le
    omega
  · intro fuel returned after shut later final moved' fuel'
    exact shutdown_of_isJoined (isJoined_mono (isJoined_of_shutdown shut) moved') fuel'

def brokenDisplay : Display where
  take.answer
    | _, .echo _ => .panicked "the terminal went away"
    | _, _ => .shown

/-- The display panics when the line `a` is echoed, while two wait for its end. -/
def collapse : List Move :=
  [.begin, .work, .prepare "a", .wait 1, .work, .wait 2, .work, .work, .work,
    .prepare "b", .requestShutdown, .reserve, .join]

/-- The end of a line closes the dispatcher if an exit was asked for, and a panic
wakes all who wait. -/
theorem closed_of_exit_or_collapse :
    (∃ reached left result,
      (Dispatcher.new { registry := ∅, exitRequested := true } {}).moves?
          [.begin, .prepare "a", .work, .work, .work, .work] = some reached ∧
      reached.worker = .running "a" 0 (.done (left, .ok result)) ∧
      reached.move? .work = some (reached.endStep left) ∧
      (reached.endStep left).Closed) ∧
    ∃ reached,
      (Dispatcher.new { registry := ∅ } brokenDisplay).moves? collapse =
        some reached ∧
      reached.waiters = { asleep := [], awake := [2, 1] } ∧
      reached.Alert ∧ reached.Closed ∧ collapse.count .join = 1 := by
  constructor
  · have moved : (Dispatcher.new { registry := ∅, exitRequested := true } {}).moves?
        [.begin, .prepare "a", .work, .work, .work, .work] = some _ := rfl
    obtain ⟨exits, -⟩ := closed_and_alert_of_moves? moved
    obtain ⟨worked, closes⟩ := exits _ _ _ _ rfl rfl
    exact ⟨_, _, _, moved, rfl, worked, closes [] _ rfl⟩
  · have moved : (Dispatcher.new { registry := ∅ } brokenDisplay).moves? collapse =
        some _ := rfl
    obtain ⟨-, closes, alert, -⟩ := closed_and_alert_of_moves? moved
    exact ⟨_, moved, rfl, alert, (closes rfl [] _ rfl).1, rfl⟩

end Dispatcher
end CommandShell
