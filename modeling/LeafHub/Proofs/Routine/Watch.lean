import LeafHub.Proofs.Lifecycle.Operations

namespace LeafHub

variable {σ α β M : Type}

/-- What is to hold at the points of a run, in terms of what is remembered of the run. -/
structure Watch (M : Type) where
  /-- What is remembered after an act. -/
  learn : {β : Type} → Act β → M → M
  /-- Holds between two operations. -/
  rest : M → Hub → Prop
  /-- Holds when the act is about to be done. -/
  point : {β : Type} → Act β → M → Hub → Prop
  /-- What is known of every hub of the run. -/
  known : Hub → Prop
  point_of_rest : ∀ {β : Type} (act : Act β) {memory : M} {hub : Hub}, rest memory hub → point act memory hub

namespace Routine

/-- Every point of the routine is as the watch wants it, and so is the hub that the routine leaves. The routines of
calls begin and end between two operations. -/
def Guards (watch : Watch M) (post : α → M → Hub → Prop) : Routine σ α → M → Hub → Prop
  | .done answer => post answer
  | .hub act next => fun memory hub => watch.point act memory hub ∧
      (watch.known hub → (next (act.run hub).1).Guards watch post (watch.learn act memory) (act.run hub).2)
  | .own _ next => fun memory hub => watch.rest memory hub ∧ ∀ answer, (next answer).Guards watch post memory hub
  | .call _ next => fun memory hub => watch.rest memory hub ∧
      ∀ reply memory hub, watch.rest memory hub → (next reply).Guards watch post memory hub

/-- As `Guards`, for a routine that ends between two operations. -/
abbrev Observes (watch : Watch M) (routine : Routine σ α) : M → Hub → Prop :=
  routine.Guards watch fun _ => watch.rest

section Guards

variable {watch : Watch M} {memory : M} {hub : Hub}

theorem guards_bind {first : Routine σ α} {second : α → Routine σ β} {middle : α → M → Hub → Prop}
    {post : β → M → Hub → Prop} (guards : first.Guards watch middle memory hub)
    (rest : ∀ answer memory hub, middle answer memory hub → (second answer).Guards watch post memory hub) :
    (first >>= second).Guards watch post memory hub := by
  show (first.bind second).Guards watch post memory hub
  induction first generalizing memory hub with
  | done answer => exact rest answer memory hub guards
  | hub act next ih => exact ⟨guards.1, fun known => ih _ (guards.2 known)⟩
  | own act next ih => exact ⟨guards.1, fun answer => ih answer (guards.2 answer)⟩
  | call c next ih => exact ⟨guards.1, fun reply memory hub quiet => ih reply (guards.2 reply memory hub quiet)⟩

theorem guards_act {act : Act α} {post : α → M → Hub → Prop} (point : watch.point act memory hub)
    (done : watch.known hub → post (act.run hub).1 (watch.learn act memory) (act.run hub).2) :
    (liftM act : Routine σ α).Guards watch post memory hub :=
  ⟨point, done⟩

theorem guards_ofCall {c : Call} (rest : watch.rest memory hub) :
    (ofCall c : Routine σ c.Reply).Observes watch memory hub :=
  ⟨rest, fun _ _ _ rest => rest⟩

/-- Where every act keeps what holds between operations, the whole routine does. -/
theorem guards_of_uses {allowed : ∀ {β : Type}, Act β → Prop}
    (keeps : ∀ {β : Type} {act : Act β} {memory : M} {hub : Hub}, allowed act → watch.known hub → watch.rest memory hub →
      watch.rest (watch.learn act memory) (act.run hub).2)
    {routine : Routine σ α} (uses : routine.Uses allowed) (rest : watch.rest memory hub) :
    routine.Observes watch memory hub := by
  induction routine generalizing memory hub with
  | done answer => exact rest
  | hub act next ih =>
    exact ⟨watch.point_of_rest act rest, fun known => ih _ (uses.2 _) (keeps uses.1 known rest)⟩
  | own act next ih => exact ⟨rest, fun answer => ih answer (uses answer) rest⟩
  | call c next ih => exact ⟨rest, fun reply memory hub rest => ih reply (uses reply) rest⟩

end Guards

/-- The operations on single leaves. -/
inductive Operation : {α : Type} → Routine σ α → Prop
  | init (leaf : LeafId) : Operation (initLeaf leaf)
  | start (leaf : LeafId) : Operation (startLeaf leaf)
  | stop (leaf : LeafId) : Operation (stopLeaf leaf)
  | preSleep (leaf : LeafId) : Operation (callClass .preSleep leaf)
  | postSleep (leaf : LeafId) : Operation (callClass .postSleep leaf)
  | command (command : Command) (args : List String) : Operation (runCommand command args)

/-- The routine is put together from operations on leaves, turns of queues, calls, and acts within a relation. Nothing
of what the class of a leaf does is done without its operation. -/
inductive Operates (R : Hub → Hub → Prop) : {α : Type} → Routine σ α → Prop
  | answered {α : Type} (answer : α) : Operates R (pure answer)
  | bound {α β : Type} {first : Routine σ α} {second : α → Routine σ β} : Operates R first →
      (∀ answer, Operates R (second answer)) → Operates R (first >>= second)
  | called (c : Call) : Operates R (ofCall c)
  | owned {α : Type} (act : StateM σ α) : Operates R (ofOwn act)
  | aside {α : Type} {act : Act α} : act.Keeps R → Operates R (liftM act)
  | turn (queue : QueueId) : Operates R (liftM (Hub.takeTurn queue))
  | operation {α : Type} {routine : Routine σ α} : Operation routine → Operates R routine

section Operates

variable {R : Hub → Hub → Prop}

theorem composes_operates : Composes (Operates R : ∀ {α : Type}, Routine σ α → Prop) where
  answered := .answered
  bound := .bound
  called := .called

theorem servesQueues_operates (lists : Cataloguing R) (waited : ∀ time, Act.Keeps R (Hub.waitUntil time)) :
    ServesQueues (Operates R : ∀ {α : Type}, Routine σ α → Prop) where
  toComposes := composes_operates
  look := .aside lists.get
  log := fun level line => .aside (lists.logged level line)
  turn := .turn
  wait := fun time => .aside (waited time)

theorem parts_operates {typed : String → Prop} (lists : Cataloguing R) (retained : ∀ id, Act.Keeps R (Hub.retain id))
    (released : ∀ id, Act.Keeps R (Hub.release id))
    (valued : ∀ name words, typed name → Act.Keeps R (Shell.setValue name words)) :
    Parts R typed (Operates R : ∀ {α : Type}, Routine σ α → Prop) where
  toComposes := composes_operates
  toLogging := lists.toLogging
  quiet := .aside
  registerClass := fun leafClass => .aside (lists.registering.registerClass leafClass)
  bootInitialise := .aside lists.registering.bootInitialise
  shellBoot := .aside lists.registering.shellBoot
  retained := retained
  released := released
  valued := valued
  init := fun id => .operation (.init id)
  start := fun id => .operation (.start id)
  stop := fun id => .operation (.stop id)
  sleep := fun id => .operation (.preSleep id)
  wake := fun id => .operation (.postSleep id)
  command := fun command args => .operation (.command command args)

end Operates

end Routine

/-- Every behaviour of the application has the property. -/
structure Application.Fits (fits : ∀ {α : Type}, Routine σ α → Prop) (app : Application σ) : Prop where
  phase : ∀ behaviour phase leaf, fits (app.phase behaviour phase leaf)
  hook : ∀ behaviour, fits (app.hook behaviour)
  work : ∀ behaviour, fits (app.work behaviour)
  command : ∀ behaviour args, fits (app.command behaviour args)
  idle : ∀ queue, fits (app.idle queue)

namespace Application

variable {fits : ∀ {α : Type}, Routine σ α → Prop} {app : Application σ}

theorem fits_silent (composes : Routine.Composes fits) : (silent : Application σ).Fits fits where
  phase := fun _ _ _ => composes.answered _
  hook := fun _ => composes.answered _
  work := fun _ => composes.answered _
  command := fun _ _ => composes.answered _
  idle := fun _ => composes.answered _

theorem Fits.body (application : app.Fits fits) (serves : Routine.ServesQueues fits) (c : Call) : fits (app.body c) := by
  cases c with
  | phase behaviour phase leaf => exact application.phase behaviour phase leaf
  | hook behaviour => exact application.hook behaviour
  | work behaviour => exact application.work behaviour
  | command behaviour args => exact application.command behaviour args
  | drain queue ran => exact serves.drainRound queue ran
  | serve queue => exact serves.serveRound queue
  | idle queue => exact application.idle queue

end Application

namespace Watch

/-- What has to be shown of a watch: acts within the relation and turns keep what holds between operations, and every
operation is as it should be. -/
structure Sound (σ : Type) (watch : Watch M) (R : Hub → Hub → Prop) : Prop where
  aside : ∀ {β : Type} {act : Act β} {memory : M} {hub : Hub}, act.Keeps R → watch.known hub → watch.rest memory hub →
    watch.rest (watch.learn act memory) (act.run hub).2
  turn : ∀ queue {memory : M} {hub : Hub}, watch.known hub → watch.rest memory hub →
    watch.rest (watch.learn (Hub.takeTurn queue) memory) ((Hub.takeTurn queue).run hub).2
  operation : ∀ {α : Type} {routine : Routine σ α} {memory : M} {hub : Hub}, Routine.Operation routine →
    watch.rest memory hub → routine.Observes watch memory hub

/-- What is remembered after the next step of a routine. -/
def remember (watch : Watch M) : Routine σ α → M → M
  | .hub act _, memory => watch.learn act memory
  | _, memory => memory

variable {watch : Watch M} {R : Hub → Hub → Prop}

theorem Sound.operates (sound : watch.Sound σ R) {routine : Routine σ α} (operates : routine.Operates R) {memory : M}
    {hub : Hub} (rest : watch.rest memory hub) : routine.Observes watch memory hub := by
  induction operates generalizing memory hub with
  | answered answer => exact rest
  | bound _ _ first second => exact Routine.guards_bind (first rest) fun answer memory hub rest => second answer rest
  | called c => exact Routine.guards_ofCall rest
  | owned act => exact ⟨rest, fun _ => rest⟩
  | aside keeps => exact Routine.guards_act (watch.point_of_rest _ rest) fun known => sound.aside keeps known rest
  | turn queue => exact Routine.guards_act (watch.point_of_rest _ rest) fun known => sound.turn queue known rest
  | operation operation => exact sound.operation operation rest

variable {app : Application σ} {routine : Routine σ α} {world : World σ}

theorem guards_step
    (bodies : ∀ c {memory : M} {hub : Hub}, watch.rest memory hub → (app.body c).Observes watch memory hub)
    {memory : M} (guards : routine.Observes watch memory world.hub) (known : watch.known world.hub) :
    (routine.step app world).1.Observes watch (watch.remember routine memory)
      (routine.step app world).2.hub := by
  cases routine with
  | done answer => exact guards
  | hub act next => exact guards.2 known
  | own act next => exact guards.2 _
  | call c next => exact Routine.guards_bind (bodies c guards.1) guards.2

/-- Every point of a run is as it should be. -/
theorem Sound.run (sound : watch.Sound σ R) (lists : Cataloguing R) (waited : ∀ time, Act.Keeps R (Hub.waitUntil time))
    (application : app.Fits (Routine.Operates R)) (operates : routine.Operates R) {memory : Nat → M}
    (remembers : ∀ limit, memory (limit + 1) = watch.remember (routine.run app limit world).1 (memory limit))
    (start : watch.rest (memory 0) world.hub) (known : ∀ limit, watch.known (routine.run app limit world).2.hub)
    (limit : Nat) : (routine.run app limit world).1.Observes watch (memory limit)
      (routine.run app limit world).2.hub := by
  have bodies (c : Call) {memory : M} {hub : Hub} (rest : watch.rest memory hub) :
      (app.body c).Observes watch memory hub :=
    sound.operates (application.body (Routine.servesQueues_operates lists waited) c) rest
  induction limit with
  | zero => exact sound.operates operates start
  | succ limit ih =>
    rw [Routine.run_next, remembers]
    exact guards_step bodies ih (known limit)

/-- The watch over routines that make no calls: every act is of the sort. -/
def ofActs (sort : ∀ {β : Type}, Act β → Hub → Prop) : Watch Unit where
  learn := fun _ _ => ()
  rest := fun _ _ => False
  point := fun act _ hub => sort act hub
  known := fun _ => True
  point_of_rest := fun _ _ _ none => none.elim

/-- A routine that makes no calls is followed without knowing the application. -/
theorem guards_run (app : Application σ) {sort : ∀ {β : Type}, Act β → Hub → Prop} {post : α → Unit → Hub → Prop}
    (guards : routine.Guards (ofActs sort) post () world.hub) (limit : Nat) :
    (routine.run app limit world).1.Guards (ofActs sort) post () (routine.run app limit world).2.hub := by
  induction limit with
  | zero => exact guards
  | succ limit ih =>
    rw [Routine.run_next]
    cases here : (routine.run app limit world).1 with
    | done answer =>
      rw [here] at ih
      exact ih
    | hub act next =>
      rw [here] at ih
      exact ih.2 trivial
    | own act next =>
      rw [here] at ih
      exact ih.1.elim
    | call c next =>
      rw [here] at ih
      exact ih.1.elim

end Watch

end LeafHub
