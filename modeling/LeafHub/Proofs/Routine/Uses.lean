import LeafHub.Execution
import LeafHub.Proofs.Hub.Frame

namespace LeafHub

variable {σ α β : Type} {allowed : ∀ {β : Type}, Act β → Prop}

namespace Routine

/-- Every step of the hub that the routine may take is allowed. -/
def Uses (allowed : ∀ {β : Type}, Act β → Prop) : Routine σ α → Prop
  | .done _ => True
  | .hub act next => allowed act ∧ ∀ answer, (next answer).Uses allowed
  | .own _ next => ∀ answer, (next answer).Uses allowed
  | .call _ next => ∀ reply, (next reply).Uses allowed

theorem uses_bind {first : Routine σ α} {second : α → Routine σ β} (uses : first.Uses allowed)
    (rest : ∀ answer, (second answer).Uses allowed) : (first >>= second).Uses allowed := by
  show (first.bind second).Uses allowed
  induction first with
  | done answer => exact rest answer
  | hub act next ih => exact ⟨uses.1, fun answer => ih answer (uses.2 answer)⟩
  | own act next ih => exact fun answer => ih answer (uses answer)
  | call c next ih => exact fun reply => ih reply (uses reply)

theorem uses_pure (answer : α) : (pure answer : Routine σ α).Uses allowed := trivial

theorem uses_act {act : Act α} (fine : allowed act) : (liftM act : Routine σ α).Uses allowed :=
  ⟨fine, fun _ => trivial⟩

theorem Uses.mono {wider : ∀ {β : Type}, Act β → Prop} (more : ∀ {β : Type} {act : Act β}, allowed act → wider act)
    {routine : Routine σ α} (uses : routine.Uses allowed) : routine.Uses wider := by
  induction routine with
  | done answer => trivial
  | hub act next ih => exact ⟨more uses.1, fun answer => ih answer (uses.2 answer)⟩
  | own act next ih => exact fun answer => ih answer (uses answer)
  | call c next ih => exact fun reply => ih reply (uses reply)

theorem uses_ofOwn (act : StateM σ α) : (ofOwn act).Uses allowed := fun _ => trivial

theorem uses_ofCall (c : Call) : (ofCall c : Routine σ c.Reply).Uses allowed := fun _ => trivial

/-- A property of routines that passes from two routines to one after the other. -/
structure Composes (fits : ∀ {α : Type}, Routine σ α → Prop) : Prop where
  answered : ∀ {α : Type} (answer : α), fits (pure answer)
  bound : ∀ {α β : Type} {first : Routine σ α} {second : α → Routine σ β}, fits first →
    (∀ answer, fits (second answer)) → fits (first >>= second)
  called : ∀ c, fits (ofCall c)

theorem composes_uses : Composes (Uses allowed : ∀ {α : Type}, Routine σ α → Prop) where
  answered := uses_pure
  bound := uses_bind
  called := uses_ofCall

/-- As `Composes`, and the acts that draining and serving queues is made of have the property. -/
structure ServesQueues (fits : ∀ {α : Type}, Routine σ α → Prop) : Prop extends Composes fits where
  look : fits (get : Routine σ Hub)
  log : ∀ level line, fits (liftM (Hub.log level line) : Routine σ Unit)
  turn : ∀ queue, fits (liftM (Hub.takeTurn queue) : Routine σ Turn)
  wait : ∀ time, fits (liftM (Hub.waitUntil time) : Routine σ Unit)

namespace ServesQueues

variable {fits : ∀ {α : Type}, Routine σ α → Prop} (serves : ServesQueues fits)

include serves

theorem drainRound (queue : QueueId) (ran : Nat) : fits (Routine.drainRound queue ran : Routine σ Nat) := by
  unfold Routine.drainRound
  refine serves.bound (serves.turn queue) fun turn => ?_
  cases turn with
  | nothing => exact serves.answered _
  | finished => exact serves.called _
  | handedOver behaviour => exact serves.bound (serves.called _) fun _ => serves.called _

theorem serveRound (queue : QueueId) : fits (Routine.serveRound queue : Routine σ Unit) := by
  unfold Routine.serveRound
  refine serves.bound serves.look fun hub => ?_
  split
  · exact serves.log _ _
  · refine serves.bound (serves.turn queue) fun turn => ?_
    cases turn with
    | nothing =>
      refine serves.bound (serves.called _) fun acted => ?_
      split
      · exact serves.called _
      · refine serves.bound serves.look fun hub => ?_
        split
        · exact serves.bound (serves.wait _) fun _ => serves.called _
        · exact serves.answered _
    | finished => exact serves.called _
    | handedOver behaviour => exact serves.bound (serves.called _) fun _ => serves.called _

end ServesQueues

end Routine

/-- Whatever the application does to the hub is allowed. -/
structure Application.Uses (allowed : ∀ {β : Type}, Act β → Prop) (app : Application σ) : Prop where
  phase : ∀ behaviour phase leaf, (app.phase behaviour phase leaf).Uses allowed
  hook : ∀ behaviour, (app.hook behaviour).Uses allowed
  work : ∀ behaviour, (app.work behaviour).Uses allowed
  command : ∀ behaviour args, (app.command behaviour args).Uses allowed
  idle : ∀ queue, (app.idle queue).Uses allowed

/-- An application that does nothing. -/
def Application.silent : Application σ where
  phase := fun _ _ _ => pure (.ok ())
  hook := fun _ => pure (.ok ())
  work := fun _ => pure ()
  command := fun _ _ => pure (.ofText "")
  idle := fun _ => pure false

theorem Application.uses_silent : (silent : Application σ).Uses allowed where
  phase := fun _ _ _ => Routine.uses_pure _
  hook := fun _ => Routine.uses_pure _
  work := fun _ => Routine.uses_pure _
  command := fun _ _ => Routine.uses_pure _
  idle := fun _ => Routine.uses_pure _

/-- What draining and serving queues does to the hub is allowed. -/
structure AllowsTurns (allowed : ∀ {β : Type}, Act β → Prop) : Prop where
  look : allowed (get : Act Hub)
  log : ∀ level line, allowed (Hub.log level line)
  turn : ∀ queue, allowed (Hub.takeTurn queue)
  wait : ∀ time, allowed (Hub.waitUntil time)

theorem AllowsTurns.serves (turns : AllowsTurns allowed) :
    Routine.ServesQueues (Routine.Uses allowed : ∀ {α : Type}, Routine σ α → Prop) where
  toComposes := Routine.composes_uses
  look := Routine.uses_act turns.look
  log := fun level line => Routine.uses_act (turns.log level line)
  turn := fun queue => Routine.uses_act (turns.turn queue)
  wait := fun time => Routine.uses_act (turns.wait time)

/-- What may be asked of queues is allowed. -/
structure AllowsRequests (allowed : ∀ {β : Type}, Act β → Prop) : Prop where
  make : allowed Hub.newQueue
  makeItem : ∀ item, allowed (Hub.newItem item)
  submit : ∀ item, allowed (Hub.submit item)
  schedule : ∀ item delay, allowed (Hub.schedule item delay)
  reschedule : ∀ item delay, allowed (Hub.reschedule item delay)
  cancel : ∀ item, allowed (Hub.cancel item)
  shutdown : ∀ queue, allowed (Hub.shutdownQueue queue)
  retain : ∀ queue, allowed (Hub.retainQueue queue)
  release : ∀ queue, allowed (Hub.releaseQueue queue)

/-- What may be done to the life of leaves is allowed. -/
structure AllowsLife (σ : Type) (allowed : ∀ {β : Type}, Act β → Prop) : Prop where
  init : ∀ leaf, (Routine.initLeaf leaf : Routine σ (Except Fault Unit)).Uses allowed
  start : ∀ leaf, (Routine.startLeaf leaf : Routine σ (Except Fault Unit)).Uses allowed
  startNamed : ∀ name, (Routine.start name : Routine σ (Except Fault Unit)).Uses allowed
  stopNamed : ∀ name, (Routine.stop name : Routine σ (Except Fault Unit)).Uses allowed
  preSleep : (Routine.preSleep : Routine σ (Except Fault Unit)).Uses allowed
  postSleep : (Routine.postSleep : Routine σ (Except Fault Unit)).Uses allowed
  boot : ∀ table, (Routine.boot table : Routine σ BootReport).Uses allowed
  shell : ∀ line, (Routine.executeLine line : Routine σ CommandResult).Uses allowed

namespace Application

variable {app : Application σ}

theorem uses_drainRound (turns : AllowsTurns allowed) (queue : QueueId) (ran : Nat) :
    (Routine.drainRound queue ran : Routine σ Nat).Uses allowed :=
  turns.serves.drainRound queue ran

theorem uses_serveRound (turns : AllowsTurns allowed) (queue : QueueId) :
    (Routine.serveRound queue : Routine σ Unit).Uses allowed :=
  turns.serves.serveRound queue

theorem Uses.body (uses : app.Uses allowed) (turns : AllowsTurns allowed) (c : Call) : (app.body c).Uses allowed := by
  cases c with
  | phase behaviour phase leaf => exact uses.phase behaviour phase leaf
  | hook behaviour => exact uses.hook behaviour
  | work behaviour => exact uses.work behaviour
  | command behaviour args => exact uses.command behaviour args
  | drain queue ran => exact uses_drainRound turns queue ran
  | serve queue => exact uses_serveRound turns queue
  | idle queue => exact uses.idle queue

end Application

namespace Routine

variable {app : Application σ}

theorem Uses.step (bodies : ∀ c, (app.body c).Uses allowed) {routine : Routine σ α} (uses : routine.Uses allowed)
    (world : World σ) : (routine.step app world).1.Uses allowed := by
  cases routine with
  | done answer => exact uses
  | hub act next => exact uses.2 _
  | own act next => exact uses _
  | call c next => exact uses_bind (bodies c) uses

theorem Uses.run (bodies : ∀ c, (app.body c).Uses allowed) {routine : Routine σ α} (uses : routine.Uses allowed)
    (world : World σ) (limit : Nat) : (routine.run app limit world).1.Uses allowed := by
  induction limit generalizing routine world with
  | zero => exact uses
  | succ limit ih =>
    rw [run_succ]
    exact ih (uses.step bodies world) _

/-- One more step. -/
theorem run_next (routine : Routine σ α) (world : World σ) (limit : Nat) :
    routine.run app (limit + 1) world =
      (routine.run app limit world).1.step app (routine.run app limit world).2 := by
  rw [run_add, run_succ]
  rfl

/-- What is shown along a run is what was taken last, where it changes in no other way. -/
theorem shown_of_taken {γ ρ : Type} (shown : Nat → γ) (takes : Nat → ρ → Prop) (as : ρ → γ)
    (quiet : ∀ step, (∀ what, ¬takes step what) → shown (step + 1) = shown step)
    (taken : ∀ step what, takes step what → shown (step + 1) = as what) (limit : Nat) :
    (∃ last what, last < limit ∧ takes last what ∧
      (∀ later other, last < later → later < limit → ¬takes later other) ∧ shown limit = as what) ∨
    ((∀ earlier other, earlier < limit → ¬takes earlier other) ∧ shown limit = shown 0) := by
  induction limit with
  | zero => exact .inr ⟨fun _ _ early => absurd early (Nat.not_lt_zero _), rfl⟩
  | succ limit ih =>
    by_cases takesNow : ∃ what, takes limit what
    · obtain ⟨what, now⟩ := takesNow
      refine .inl ⟨limit, what, Nat.lt_succ_self _, now, fun later _ late early => ?_, taken limit what now⟩
      exact absurd late (Nat.not_lt.mpr (Nat.lt_succ_iff.mp early))
    · have none (what : ρ) : ¬takes limit what := fun there => takesNow ⟨what, there⟩
      have same := quiet limit none
      have untaken {later : Nat} (other : ρ) (early : later < limit + 1) (before : later < limit → ¬takes later other) :
          ¬takes later other := by
        rcases Nat.lt_succ_iff_lt_or_eq.mp early with earlier | rfl
        · exact before earlier
        · exact none other
      rcases ih with ⟨last, what, past, took, after, held⟩ | ⟨never, held⟩
      · exact .inl ⟨last, what, Nat.lt_succ_of_lt past, took,
          fun later other late early => untaken other early (after later other late), same.trans held⟩
      · exact .inr ⟨fun earlier other early => untaken other early (never earlier other), same.trans held⟩

/-- A routine that is done does nothing more. -/
theorem run_of_answer? {routine : Routine σ α} {world : World σ} {limit : Nat}
    (done : (routine.run app limit world).1.answer?.isSome = true) (more : Nat) :
    routine.run app (limit + more) world = routine.run app limit world := by
  rw [run_add]
  generalize routine.run app limit world = reached at done
  obtain ⟨rest, after⟩ := reached
  cases rest with
  | done answer => exact run_done app more answer after
  | _ => cases done

/-- A step of the routine changes the hub by an allowed step or not at all. -/
theorem Uses.step_hub {R : Hub → Hub → Prop} (passage : Passage R)
    (keeps : ∀ {β : Type} {act : Act β}, allowed act → act.Keeps R) {routine : Routine σ α}
    (uses : routine.Uses allowed) (world : World σ) : R world.hub (routine.step app world).2.hub := by
  cases routine with
  | done answer => exact passage.refl _
  | hub act next => exact keeps uses.1 world.hub
  | own act next => exact passage.refl _
  | call c next => exact passage.refl _

/-- A step leaves the hub alone or is one of the allowed acts. -/
theorem Uses.step_cases (app : Application σ) {routine : Routine σ α} (uses : routine.Uses allowed) (world : World σ) :
    (routine.step app world).2.hub = world.hub ∨ ∃ (β : Type) (act : Act β) (next : β → Routine σ α),
      routine = .hub act next ∧ allowed act ∧ (routine.step app world).2.hub = (act.run world.hub).2 := by
  cases routine with
  | done answer => exact .inl rfl
  | hub act next => exact .inr ⟨_, act, next, rfl, uses.1, rfl⟩
  | own act next => exact .inl rfl
  | call c next => exact .inl rfl

/-- The next step of the routine is an act of that sort. -/
def Takes (sort : ∀ {β : Type}, Act β → Prop) (routine : Routine σ α) : Prop :=
  ∃ (β : Type) (act : Act β) (next : β → Routine σ α), routine = .hub act next ∧ sort act

/-- What every allowed act keeps holds along a run, where the acts may rely on what is known of every hub of the run. -/
theorem Uses.run_keeps (P known : Hub → Prop)
    (keeps : ∀ {β : Type} {act : Act β} {hub : Hub}, allowed act → known hub → P hub → P (act.run hub).2)
    (bodies : ∀ c, (app.body c).Uses allowed) {routine : Routine σ α} (uses : routine.Uses allowed) {world : World σ}
    (start : P world.hub) (always : ∀ limit, known (routine.run app limit world).2.hub) (limit : Nat) :
    P (routine.run app limit world).2.hub := by
  induction limit with
  | zero => exact start
  | succ limit ih =>
    rw [run_next]
    obtain same | ⟨β, act, next, _, fine, after⟩ :=
      (uses.run bodies world limit).step_cases app (routine.run app limit world).2
    · exact same.symm ▸ ih
    · exact after.symm ▸ keeps fine (always limit) ih

/-- As `Uses.step_hub`, for a whole run. -/
theorem Uses.run_hub {R : Hub → Hub → Prop} (passage : Passage R)
    (keeps : ∀ {β : Type} {act : Act β}, allowed act → act.Keeps R) (bodies : ∀ c, (app.body c).Uses allowed)
    {routine : Routine σ α} (uses : routine.Uses allowed) (world : World σ) (limit : Nat) :
    R world.hub (routine.run app limit world).2.hub := by
  induction limit with
  | zero => exact passage.refl _
  | succ limit ih =>
    rw [run_next]
    exact passage.trans ih ((uses.run bodies world limit).step_hub passage keeps _)

end Routine

end LeafHub
