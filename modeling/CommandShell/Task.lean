/-!
# Tasks

A task is a computation that asks its surroundings for things and goes on with
the replies.  It is a finite tree: a leaf holds a result, and an inner node
holds a request with one subtree for every reply.  The surroundings are left
open, so a statement about all replies covers everything the surroundings may
do, and the same task can be paused at a request and resumed later.
-/

namespace CommandShell

/-- The requests that a task may make, with the type of the reply to each. -/
structure Interface where
  Request : Type
  Reply : Request → Type

/-- A computation that makes the requests of an interface. -/
inductive Task (I : Interface) (α : Type) where
  /-- The computation is over. -/
  | done (value : α)
  /-- The computation goes on once its request has been replied to. -/
  | ask (request : I.Request) (resume : I.Reply request → Task I α)

namespace Task

variable {I J : Interface} {α β γ σ : Type}

def bind : Task I α → (α → Task I β) → Task I β
  | .done value, next => next value
  | .ask request resume, next => .ask request fun reply =>
      bind (resume reply) next

instance : Monad (Task I) where
  pure := .done
  bind := bind

instance [Inhabited α] : Inhabited (Task I α) := ⟨.done default⟩

/-- The task that makes one request and yields the reply. -/
def perform (request : I.Request) : Task I (I.Reply request) :=
  .ask request .done

@[simp]
theorem pure_eq (value : α) : (pure value : Task I α) = .done value := rfl

@[simp]
theorem done_bind (value : α) (next : α → Task I β) :
    (Task.done value >>= next) = next value := rfl

@[simp]
theorem ask_bind (request : I.Request) (resume : I.Reply request → Task I α)
    (next : α → Task I β) :
    (Task.ask request resume >>= next) =
      .ask request fun reply => resume reply >>= next := rfl

@[simp]
theorem perform_bind (request : I.Request)
    (next : I.Reply request → Task I β) :
    (perform request >>= next) = .ask request next := rfl

theorem bind_done (task : Task I α) : (task >>= Task.done) = task := by
  induction task with
  | done value => rfl
  | ask request resume ih => simp [ih]

theorem bind_assoc (task : Task I α) (next : α → Task I β)
    (last : β → Task I γ) :
    (task >>= next >>= last) = task >>= fun value => next value >>= last := by
  induction task with
  | done value => rfl
  | ask request resume ih => simp [ih]

instance : LawfulMonad (Task I) :=
  LawfulMonad.mk' (Task I) bind_done (fun _ _ => rfl) bind_assoc

/-- Run a task in surroundings with a state of their own. -/
def run (reply : (request : I.Request) → σ → I.Reply request × σ) :
    Task I α → σ → α × σ
  | .done value, state => (value, state)
  | .ask request resume, state =>
      let (answer, state) := reply request state
      run reply (resume answer) state

/-- Run a task whose requests are replied to by effects of a monad. -/
def runM {m : Type → Type} [Monad m]
    (reply : (request : I.Request) → m (I.Reply request)) : Task I α → m α
  | .done value => pure value
  | .ask request resume => do
      let answer ← reply request
      runM reply (resume answer)

@[simp]
theorem run_done (reply : (request : I.Request) → σ → I.Reply request × σ)
    (value : α) (state : σ) :
    run reply (.done value) state = (value, state) := rfl

@[simp]
theorem run_ask (reply : (request : I.Request) → σ → I.Reply request × σ)
    (request : I.Request) (resume : I.Reply request → Task I α) (state : σ) :
    run reply (.ask request resume) state =
      run reply (resume (reply request state).1) (reply request state).2 := rfl

/-- Running a sequence runs its parts one after the other. -/
theorem run_bind (reply : (request : I.Request) → σ → I.Reply request × σ)
    (task : Task I α) (next : α → Task I β) (state : σ) :
    run reply (task >>= next) state =
      run reply (next (run reply task state).1) (run reply task state).2 := by
  induction task generalizing state with
  | done value => rfl
  | ask request resume ih => simp [ih]

end Task

end CommandShell
