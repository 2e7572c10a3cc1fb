import LeafHub.Hub.Keypad
import LeafHub.Hub.Led
import LeafHub.Hub.SettingsLeaf

namespace LeafHub

/-- What is called, as opposed to done in one step: the application's behaviours, and the rounds of a queue, of
which nobody knows how many there will be. -/
inductive Call where
  | phase (behaviour : BehaviourId) (phase : Phase) (leaf : LeafId)
  | hook (behaviour : BehaviourId)
  | work (behaviour : BehaviourId)
  | command (behaviour : BehaviourId) (args : List String)
  /-- Runs what is ready in a queue after `ran` items. -/
  | drain (queue : QueueId) (ran : Nat)
  /-- Runs what becomes ready in a queue until the queue closes. -/
  | serve (queue : QueueId)
  /-- Lets the application act while a queue has nothing ready. -/
  | idle (queue : QueueId)
  deriving DecidableEq

/-- What a call answers. -/
abbrev Call.Reply : Call → Type
  | .phase .. | .hook .. => Except Fault Unit
  | .work .. | .serve .. => Unit
  | .command .. => CommandResult
  | .drain .. => Nat
  | .idle .. => Bool

/-- What a hub does when others have a say in it: steps of the hub, steps of the application on a state `σ` of its own,
and calls. What holds between any two of these is a statement about the routine and not only about its end. -/
inductive Routine (σ : Type) (α : Type) : Type 1 where
  | done (answer : α)
  | hub {β : Type} (act : Act β) (next : β → Routine σ α)
  | own {β : Type} (act : StateM σ β) (next : β → Routine σ α)
  | call (c : Call) (next : c.Reply → Routine σ α)

namespace Routine

variable {σ α β γ : Type}

/-- One routine after another. -/
def bind (first : Routine σ α) (second : α → Routine σ β) : Routine σ β :=
  match first with
  | .done answer => second answer
  | .hub act next => .hub act fun answer => (next answer).bind second
  | .own act next => .own act fun answer => (next answer).bind second
  | .call c next => .call c fun answer => (next answer).bind second

instance : Monad (Routine σ) where
  pure := .done
  bind := bind

instance : MonadLift Act (Routine σ) where
  monadLift act := .hub act .done

/-- A step of the application. -/
def ofOwn (act : StateM σ α) : Routine σ α :=
  .own act .done

/-- Nothing but a call. -/
def ofCall (c : Call) : Routine σ c.Reply :=
  .call c .done

theorem bind_done (routine : Routine σ α) : routine.bind .done = routine := by
  induction routine with
  | done => rfl
  | hub act next ih => simp only [bind, ih]
  | own act next ih => simp only [bind, ih]
  | call c next ih => simp only [bind, ih]

theorem bind_assoc (routine : Routine σ α) (second : α → Routine σ β) (third : β → Routine σ γ) :
    (routine.bind second).bind third = routine.bind fun answer => (second answer).bind third := by
  induction routine with
  | done => rfl
  | hub act next ih => simp only [bind, ih]
  | own act next ih => simp only [bind, ih]
  | call c next ih => simp only [bind, ih]

/-- Holds on to leaves during a routine. -/
def holding (ids : List LeafId) (body : Routine σ α) : Routine σ α := do
  (ids.forM Hub.retain : Act Unit)
  let answer ← body
  (ids.forM Hub.release : Act Unit)
  return answer

end Routine

end LeafHub
