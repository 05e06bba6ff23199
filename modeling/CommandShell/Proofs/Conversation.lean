import CommandShell.Task
import Mathlib.Data.List.Forall2

/-!
# Conversations

A conversation lists the requests that a task makes, each with the reply that it
gets.  `Leads` says how far a conversation takes a task, and `Yields` that it
takes the task to its result.  Nothing is assumed of the replies, so what holds
for every conversation holds in all surroundings.

`Ensures` looks at the same thing from the side of the task: whatever it is told,
it makes only requests of one sort and ends only with results of one sort.
`Ignores` says that the replies to requests of one sort make no difference.  `Follows` says
that the surroundings choose their replies by a strategy: a task comes to its end with each, in
one way only.  Surroundings with a state of their own, in which a task is run, have a strategy.
-/

namespace CommandShell

abbrev Exchange (I : Interface) := (request : I.Request) × I.Reply request

namespace Task

variable {I : Interface} {α β : Type}

/-- A conversation takes a task to what is left of it. -/
inductive Leads : Task I α → List (Exchange I) → Task I α → Prop
  | refl (task : Task I α) : Leads task [] task
  | ask {request : I.Request} {resume : I.Reply request → Task I α}
      {answer : I.Reply request} {exchanges : List (Exchange I)}
      {rest : Task I α} (later : Leads (resume answer) exchanges rest) :
      Leads (.ask request resume) (⟨request, answer⟩ :: exchanges) rest

/-- A conversation takes a task to its result. -/
abbrev Yields (task : Task I α) (exchanges : List (Exchange I)) (value : α) :
    Prop :=
  Leads task exchanges (.done value)

@[simp]
theorem yields_done_iff {value result : α} {exchanges : List (Exchange I)} :
    Yields (.done value) exchanges result ↔
      exchanges = [] ∧ result = value := by
  constructor
  · rintro ⟨⟩
    exact ⟨rfl, rfl⟩
  · rintro ⟨rfl, rfl⟩
    exact .refl _

theorem yields_ask_iff {request : I.Request}
    {resume : I.Reply request → Task I α} {exchanges : List (Exchange I)}
    {result : α} :
    Yields (.ask request resume) exchanges result ↔
      ∃ answer later, exchanges = ⟨request, answer⟩ :: later ∧
        Yields (resume answer) later result := by
  constructor
  · rintro (_ | later)
    exact ⟨_, _, rfl, later⟩
  · rintro ⟨answer, later, rfl, yields⟩
    exact .ask yields

theorem yields_bind_iff {task : Task I α} {next : α → Task I β}
    {exchanges : List (Exchange I)} {result : β} :
    Yields (task >>= next) exchanges result ↔
      ∃ first value second, exchanges = first ++ second ∧
        Yields task first value ∧ Yields (next value) second result := by
  induction task generalizing exchanges with
  | done value =>
      constructor
      · intro yields
        exact ⟨[], value, exchanges, rfl, .refl _, yields⟩
      · rintro ⟨first, middle, second, rfl, yields, later⟩
        obtain ⟨rfl, rfl⟩ := yields_done_iff.1 yields
        exact later
  | ask request resume ih =>
      rw [ask_bind, yields_ask_iff]
      constructor
      · rintro ⟨answer, later, rfl, yields⟩
        obtain ⟨first, value, second, rfl, yields, last⟩ := (ih answer).1 yields
        exact ⟨⟨request, answer⟩ :: first, value, second, rfl, .ask yields, last⟩
      · rintro ⟨first, value, second, rfl, yields, last⟩
        obtain ⟨answer, later, rfl, resumed⟩ := yields_ask_iff.1 yields
        exact ⟨answer, later ++ second, rfl,
          (ih answer).2 ⟨later, value, second, rfl, resumed, last⟩⟩

theorem yields_map_iff {f : α → β} {task : Task I α} {exchanges : List (Exchange I)}
    {result : β} :
    Yields (f <$> task) exchanges result ↔
      ∃ value, Yields task exchanges value ∧ f value = result := by
  rw [map_eq_pure_bind, yields_bind_iff]
  constructor
  · rintro ⟨first, value, _, rfl, yields, ended⟩
    obtain ⟨rfl, rfl⟩ := yields_done_iff.1 ended
    exact ⟨value, by rwa [List.append_nil], rfl⟩
  · rintro ⟨value, yields, rfl⟩
    exact ⟨exchanges, value, [], (List.append_nil _).symm, yields, .refl _⟩

/-- Two results that a task yields along one list of replies are the same
result, reached at the same point of the list. -/
theorem Yields.unique {task : Task I α} {first second : List (Exchange I)}
    {rest others : List (Exchange I)} {value other : α}
    (yields : Yields task first value) (again : Yields task second other)
    (same : first ++ rest = second ++ others) :
    first = second ∧ value = other := by
  induction task generalizing first second with
  | done =>
      obtain ⟨rfl, rfl⟩ := yields_done_iff.1 yields
      obtain ⟨rfl, rfl⟩ := yields_done_iff.1 again
      exact ⟨rfl, rfl⟩
  | ask request resume ih =>
      obtain ⟨answer, later, rfl, resumed⟩ := yields_ask_iff.1 yields
      obtain ⟨answer', later', rfl, resumed'⟩ := yields_ask_iff.1 again
      obtain ⟨headEq, tailEq⟩ := List.cons.inj same
      cases headEq
      obtain ⟨rfl, rfl⟩ := ih answer resumed resumed' tailEq
      exact ⟨rfl, rfl⟩

/-- Two conversations of a task are the same if there is only one reply to each request in the
first that is fit for either. -/
theorem Yields.unique_of_fit {task : Task I α} {first second : List (Exchange I)} {value other : α}
    {fit : Exchange I → Prop} (yields : Yields task first value) (again : Yields task second other)
    (only : ∀ request answer, (⟨request, answer⟩ : Exchange I) ∈ first →
      ∀ otherAnswer, fit ⟨request, otherAnswer⟩ → otherAnswer = answer)
    (fits : ∀ exchange ∈ second, fit exchange) : first = second ∧ value = other := by
  induction task generalizing first second with
  | done result =>
      obtain ⟨rfl, rfl⟩ := yields_done_iff.1 yields
      obtain ⟨rfl, rfl⟩ := yields_done_iff.1 again
      exact ⟨rfl, rfl⟩
  | ask request resume ih =>
      obtain ⟨answer, later, rfl, resumed⟩ := yields_ask_iff.1 yields
      obtain ⟨answer', later', rfl, resumed'⟩ := yields_ask_iff.1 again
      obtain ⟨fitsHead, fitsLater⟩ := List.forall_mem_cons.1 fits
      obtain rfl := only request answer List.mem_cons_self answer' fitsHead
      have onlyLater : ∀ request answer, (⟨request, answer⟩ : Exchange I) ∈ later →
          ∀ otherAnswer, fit ⟨request, otherAnswer⟩ → otherAnswer = answer :=
        fun request answer listed => only request answer (List.mem_cons_of_mem _ listed)
      obtain ⟨rfl, rfl⟩ := ih _ resumed resumed' onlyLater fitsLater
      exact ⟨rfl, rfl⟩

/-- Whatever the replies, a task makes only requests that are asked for, and it
ends only with results that are expected. -/
def Ensures (asks : I.Request → Prop) (ends : α → Prop) : Task I α → Prop
  | .done value => ends value
  | .ask request resume =>
      asks request ∧ ∀ answer, Ensures asks ends (resume answer)

namespace Ensures

variable {asks : I.Request → Prop} {ends : α → Prop}

theorem bind {task : Task I α} {next : α → Task I β} {last : β → Prop}
    (ensures : task.Ensures asks ends)
    (later : ∀ value, ends value → (next value).Ensures asks last) :
    (task >>= next).Ensures asks last := by
  induction task with
  | done value => exact later value ensures
  | ask request resume ih =>
      exact ⟨ensures.1, fun answer => ih answer (ensures.2 answer)⟩

theorem mono {task : Task I α} {weaker : α → Prop}
    (ensures : task.Ensures asks ends)
    (weakens : ∀ value, ends value → weaker value) :
    task.Ensures asks weaker := by
  induction task with
  | done value => exact weakens value ensures
  | ask request resume ih =>
      exact ⟨ensures.1, fun answer => ih answer (ensures.2 answer)⟩

theorem anything (task : Task I α) : task.Ensures (fun _ => True) fun _ => True := by
  induction task with
  | done value => trivial
  | ask request resume ih => exact ⟨trivial, ih⟩

/-- What a task ensures shows in each of its conversations. -/
theorem of_yields {task : Task I α} {exchanges : List (Exchange I)} {value : α}
    (ensures : task.Ensures asks ends) (yields : Yields task exchanges value) :
    (∀ exchange ∈ exchanges, asks exchange.1) ∧ ends value := by
  induction task generalizing exchanges with
  | done result =>
      obtain ⟨rfl, rfl⟩ := yields_done_iff.1 yields
      exact ⟨by simp, ensures⟩
  | ask request resume ih =>
      obtain ⟨answer, later, rfl, resumed⟩ := yields_ask_iff.1 yields
      obtain ⟨asked, ended⟩ := ih answer (ensures.2 answer) resumed
      refine ⟨fun exchange member => ?_, ended⟩
      rcases List.mem_cons.1 member with rfl | member
      · exact ensures.1
      · exact asked exchange member

end Ensures

/-- The replies to certain requests have no effect on what a task does. -/
def Ignores (unheard : I.Request → Prop) : Task I α → Prop
  | .done _ => True
  | .ask request resume =>
      (unheard request → ∀ answer other, resume answer = resume other) ∧
        ∀ answer, Ignores unheard (resume answer)

/-- Two conversations differ at most in the replies to certain requests. -/
def Alike (unheard : I.Request → Prop) : List (Exchange I) → List (Exchange I) → Prop :=
  List.Forall₂ fun exchange other =>
    exchange = other ∨ exchange.1 = other.1 ∧ unheard exchange.1

section Alike

variable {unheard : I.Request → Prop} {first second exchanges others : List (Exchange I)}

theorem Alike.of_append (alike : Alike unheard (first ++ second) others) :
    ∃ firstOthers secondOthers, others = firstOthers ++ secondOthers ∧
      Alike unheard first firstOthers ∧ Alike unheard second secondOthers := by
  refine ⟨others.take first.length, others.drop first.length,
    (List.take_append_drop _ _).symm, ?_, ?_⟩
  · exact (List.forall₂_take_append _ _ _ alike.flip).flip
  · exact (List.forall₂_drop_append _ _ _ alike.flip).flip

/-- Without such requests there is nothing to differ in. -/
theorem Alike.eq_of_heard (heard : ∀ exchange ∈ exchanges, ¬ unheard exchange.1)
    (alike : Alike unheard exchanges others) : exchanges = others := by
  induction alike with
  | nil => rfl
  | cons same _ ih =>
      obtain ⟨isHeard, heard⟩ := List.forall_mem_cons.1 heard
      obtain rfl := same.resolve_right fun ⟨_, isUnheard⟩ => isHeard isUnheard
      rw [ih heard]

end Alike

namespace Ignores

variable {unheard : I.Request → Prop}

theorem bind {task : Task I α} {next : α → Task I β} (ignores : task.Ignores unheard)
    (later : ∀ value, (next value).Ignores unheard) :
    (task >>= next).Ignores unheard := by
  induction task with
  | done value => exact later value
  | ask request resume ih =>
      refine ⟨fun isUnheard answer other => ?_, fun answer => ih answer (ignores.2 answer)⟩
      exact congrArg (· >>= next) (ignores.1 isUnheard answer other)

/-- A task that never makes such requests ignores the replies to them. -/
theorem of_ensures {task : Task I α} {ends : α → Prop}
    (ensures : task.Ensures (fun request => ¬ unheard request) ends) :
    task.Ignores unheard := by
  induction task with
  | done value => trivial
  | ask request resume ih =>
      exact ⟨fun isUnheard => absurd isUnheard ensures.1,
        fun answer => ih answer (ensures.2 answer)⟩

/-- Other replies to such requests take a task to the same result. -/
theorem yields {task : Task I α} {exchanges others : List (Exchange I)} {value : α}
    (ignores : task.Ignores unheard) (yields : Yields task exchanges value)
    (alike : Alike unheard exchanges others) : Yields task others value := by
  induction task generalizing exchanges others with
  | done result =>
      obtain ⟨rfl, rfl⟩ := yields_done_iff.1 yields
      cases alike
      exact .refl _
  | ask request resume ih =>
      obtain ⟨answer, later, rfl, resumed⟩ := yields_ask_iff.1 yields
      cases alike with
      | @cons _ other _ laterOthers same alike =>
          rcases same with rfl | ⟨same, isUnheard⟩
          · exact .ask (ih answer (ignores.2 answer) resumed alike)
          · obtain ⟨_, other⟩ := other
            cases same
            rw [ignores.1 isUnheard answer other] at resumed
            exact .ask (ih other (ignores.2 other) resumed alike)

end Ignores

section Follows

variable {strategy : List (Exchange I) → (request : I.Request) → I.Reply request}

/-- Every reply in a conversation is the one that a strategy gives, which knows what was said
before it. -/
def Follows (strategy : List (Exchange I) → (request : I.Request) → I.Reply request) :
    (past exchanges : List (Exchange I)) → Prop
  | _, [] => True
  | past, exchange :: later =>
      exchange.2 = strategy past exchange.1 ∧ Follows strategy (past ++ [exchange]) later

/-- A task comes to its end, however its surroundings choose their replies. -/
theorem exists_yields_of_strategy
    (strategy : List (Exchange I) → (request : I.Request) → I.Reply request) (task : Task I α)
    (past : List (Exchange I)) :
    ∃ exchanges value, Follows strategy past exchanges ∧ Yields task exchanges value := by
  induction task generalizing past with
  | done value => exact ⟨[], value, trivial, .refl _⟩
  | ask request resume ih =>
      let exchange : Exchange I := ⟨request, strategy past request⟩
      obtain ⟨later, value, follows, yields⟩ := ih exchange.2 (past ++ [exchange])
      exact ⟨exchange :: later, value, ⟨rfl, follows⟩, .ask yields⟩

theorem reply_of_follows {answer : (request : I.Request) → I.Reply request}
    {past exchanges : List (Exchange I)} (follows : Follows (fun _ => answer) past exchanges) :
    ∀ exchange ∈ exchanges, exchange.2 = answer exchange.1 := by
  induction exchanges generalizing past with
  | nil => exact nofun
  | cons exchange later ih =>
      obtain ⟨chosen, follows⟩ := follows
      exact List.forall_mem_cons.2 ⟨chosen, ih follows⟩

theorem Follows.of_append {past first second : List (Exchange I)}
    (follows : Follows strategy past (first ++ second)) : Follows strategy past first := by
  induction first generalizing past with
  | nil => trivial
  | cons exchange first ih => exact ⟨follows.1, ih follows.2⟩

/-- With a strategy a task has one conversation. -/
theorem Yields.unique_of_follows {task : Task I α} {past first second : List (Exchange I)}
    {value other : α} (yields : Yields task first value) (again : Yields task second other)
    (follows : Follows strategy past first) (followsAgain : Follows strategy past second) :
    first = second ∧ value = other := by
  induction task generalizing past first second with
  | done result =>
      obtain ⟨rfl, rfl⟩ := yields_done_iff.1 yields
      obtain ⟨rfl, rfl⟩ := yields_done_iff.1 again
      exact ⟨rfl, rfl⟩
  | ask request resume ih =>
      obtain ⟨answer, later, rfl, resumed⟩ := yields_ask_iff.1 yields
      obtain ⟨otherAnswer, otherLater, rfl, otherResumed⟩ := yields_ask_iff.1 again
      obtain rfl : answer = otherAnswer := follows.1.trans followsAgain.1.symm
      obtain ⟨rfl, rfl⟩ := ih answer resumed otherResumed follows.2 followsAgain.2
      exact ⟨rfl, rfl⟩

end Follows

section Run

variable {σ : Type} (reply : (request : I.Request) → σ → I.Reply request × σ)

/-- The state of the surroundings after a conversation. -/
def stateAfter (state : σ) (exchanges : List (Exchange I)) : σ :=
  exchanges.foldl (fun state exchange => (reply exchange.1 state).2) state

theorem stateAfter_append (state : σ) (first second : List (Exchange I)) :
    stateAfter reply state (first ++ second) =
      stateAfter reply (stateAfter reply state first) second :=
  List.foldl_append

/-- The strategy of surroundings that reply by their state. -/
def strategyOf (state : σ) (past : List (Exchange I)) (request : I.Request) : I.Reply request :=
  (reply request (stateAfter reply state past)).1

/-- Running a task is the conversation that follows the strategy of the surroundings. -/
theorem exists_yields_run (task : Task I α) (state : σ) :
    ∃ exchanges, Follows (strategyOf reply state) [] exchanges ∧
      Yields task exchanges (run reply task state).1 ∧
      (run reply task state).2 = stateAfter reply state exchanges := by
  suffices later : ∀ past, ∃ exchanges, Follows (strategyOf reply state) past exchanges ∧
      Yields task exchanges (run reply task (stateAfter reply state past)).1 ∧
      (run reply task (stateAfter reply state past)).2 =
        stateAfter reply state (past ++ exchanges) from later []
  induction task with
  | done value =>
      intro past
      exact ⟨[], trivial, .refl _, by rw [List.append_nil]; rfl⟩
  | ask request resume ih =>
      intro past
      let exchange : Exchange I := ⟨request, strategyOf reply state past request⟩
      have stateEq : stateAfter reply state (past ++ [exchange]) =
          (reply request (stateAfter reply state past)).2 :=
        stateAfter_append ..
      obtain ⟨exchanges, follows, yields, ended⟩ := ih exchange.2 (past ++ [exchange])
      rw [stateEq] at yields ended
      refine ⟨exchange :: exchanges, ⟨rfl, follows⟩, .ask yields, ?_⟩
      rw [List.append_assoc] at ended
      exact ended

end Run

end Task

end CommandShell
