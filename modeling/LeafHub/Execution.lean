import LeafHub.Boot
import LeafHub.Drain
import LeafHub.Shell

namespace LeafHub

/-- What an application brings along. -/
structure Application (σ : Type) where
  phase : BehaviourId → Phase → LeafId → Routine σ (Except Fault Unit)
  hook : BehaviourId → Routine σ (Except Fault Unit)
  work : BehaviourId → Routine σ Unit
  command : BehaviourId → List String → Routine σ CommandResult
  /-- What happens while a queue has nothing ready; says whether anything did. -/
  idle : QueueId → Routine σ Bool

/-- The state of the hub beside that of the application. -/
structure World (σ : Type) where
  hub : Hub
  own : σ

variable {σ α : Type}

namespace Application

/-- The routine of a call. -/
def body (app : Application σ) : (c : Call) → Routine σ c.Reply
  | .phase behaviour phase leaf => app.phase behaviour phase leaf
  | .hook behaviour => app.hook behaviour
  | .work behaviour => app.work behaviour
  | .command behaviour args => app.command behaviour args
  | .drain queue ran => Routine.drainRound queue ran
  | .serve queue => Routine.serveRound queue
  | .idle queue => app.idle queue

end Application

namespace Routine

/-- The answer of a routine that is done. -/
def answer? : Routine σ α → Option α
  | .done answer => some answer
  | _ => none

/-- One step of a routine. -/
def step (app : Application σ) (routine : Routine σ α) (world : World σ) : Routine σ α × World σ :=
  match routine with
  | .done answer => (.done answer, world)
  | .hub act next =>
    let (answer, after) := act.run world.hub
    (next answer, { world with hub := after })
  | .own act next =>
    let (answer, after) := act.run world.own
    (next answer, { world with own := after })
  | .call c next => ((app.body c).bind next, world)

/-- At most `limit` steps of a routine. -/
def run (app : Application σ) : Nat → Routine σ α → World σ → Routine σ α × World σ
  | 0, routine, world => (routine, world)
  | limit + 1, routine, world =>
    match routine with
    | .done answer => (.done answer, world)
    | routine =>
      let (rest, after) := routine.step app world
      run app limit rest after

theorem run_done (app : Application σ) (limit : Nat) (answer : α) (world : World σ) :
    run app limit (.done answer) world = (.done answer, world) := by
  cases limit <;> rfl

theorem run_succ (app : Application σ) (limit : Nat) (routine : Routine σ α) (world : World σ) :
    run app (limit + 1) routine world =
      run app limit (routine.step app world).1 (routine.step app world).2 := by
  cases routine with
  | done answer => simp [step, run_done]
  | hub act next => rfl
  | own act next => rfl
  | call c next => rfl

theorem run_add (app : Application σ) (first second : Nat) (routine : Routine σ α) (world : World σ) :
    run app (first + second) routine world =
      run app second (run app first routine world).1 (run app first routine world).2 := by
  induction first generalizing routine world with
  | zero => simp [run]
  | succ n ih => rw [Nat.succ_add, run_succ, run_succ, ih]

end Routine

end LeafHub
