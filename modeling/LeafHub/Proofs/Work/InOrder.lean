import LeafHub.Proofs.Hub.Granted
import LeafHub.Proofs.Routine.Uses
import LeafHub.Proofs.Work.History

namespace LeafHub

variable {σ α : Type}

namespace Hub

/-- What the requests for a run come to, what a cancel and a shutdown do, and the requests after it. -/
structure Obeys (id : QueueId) (hub : Hub) : Prop where
  submit : ∀ item, (hub.items.get item).queue = id → (hub.queues.get id).owners ≠ 0 →
    ((Hub.submit item).run hub).1 = ((hub.queues.get id).submit item).1
  submitted : ∀ item, (hub.items.get item).queue = id → hub.Submitted item ((Hub.submit item).run hub).2
  /-- An item that waits for a deadline already gets no other. -/
  schedule : ∀ item delay, (hub.items.get item).queue = id →
    hub.Timed item delay ((hub.queues.get id).owners ≠ 0 ∧ (hub.queues.get id).closed = false ∧
      (hub.queues.get id).isDelayed item = false) ((Hub.schedule item delay).run hub)
  /-- The new deadline takes the place of the one that the item may have. -/
  reschedule : ∀ item delay, (hub.items.get item).queue = id →
    hub.Timed item delay ((hub.queues.get id).owners ≠ 0 ∧ (hub.queues.get id).closed = false)
      ((Hub.reschedule item delay).run hub)
  cancel : ∀ item, (hub.items.get item).queue = id → (hub.queues.get id).owners ≠ 0 →
    (((Hub.cancel item).run hub).1 = true ↔ hub.isPending item = true ∨ (hub.queueOf item).isDelayed item = true) ∧
      ((Hub.cancel item).run hub).2.isPending item = false ∧
      (((Hub.cancel item).run hub).2.queueOf item).isDelayed item = false
  shutdown : (((shutdownQueue id).run hub).2.queues.get id).closed = true
  refused : (hub.queues.get id).closed = true → ∀ item delay, (hub.items.get item).queue = id →
    hub.isPending item = false ∧ ((Hub.submit item).run hub).1 = false ∧
      ((Hub.schedule item delay).run hub).1 = false ∧ ((Hub.reschedule item delay).run hub).1 = false

/-- What holds of a queue at a point of its history. -/
structure InOrder (start : Hub) (id : QueueId) (past : List WorkEvent) (hub : Hub) : Prop where
  pending_iff : ∀ item, (hub.items.get item).queue = id →
    (hub.isPending item = true ↔ item ∈ (hub.queues.get id).ready)
  ready : (hub.queues.get id).ready.Nodup
  delayed : ((hub.queues.get id).delayed.map Prod.snd).Nodup
  /-- The journal names the runs of the history. -/
  begun : hub.begun = start.begun ++ past.flatMap WorkEvent.started
  /-- There is one entry for each time that an item became ready, in that order. -/
  entries : (accountOf (start.queues.get id) id past).entries.map Prod.fst =
    (start.queues.get id).ready ++ (start.queues.get id).enqueues ((requestsTo id past).map WorkEvent.request)
  /-- The runs are the entries that neither wait nor were dropped, in that order. -/
  started : (requestsTo id past).flatMap WorkEvent.started =
    Account.ofFate .started (accountOf (start.queues.get id) id past).entries
  waiting : (hub.queues.get id).ready = Account.ofFate .waiting (accountOf (start.queues.get id) id past).entries
  /-- Exactly what is due and not ready yet becomes ready, once. -/
  joining : ∀ now, ((hub.queues.get id).joining now).Nodup ∧ ∀ item, item ∈ (hub.queues.get id).joining now ↔
    (∃ deadline ≤ now, (deadline, item) ∈ (hub.queues.get id).delayed) ∧ item ∉ (hub.queues.get id).ready
  obeys : hub.Obeys id
  empty : (hub.queues.get id).closed = true → (hub.queues.get id).ready = [] ∧ (hub.queues.get id).delayed = []
  /-- A queue that is closed stays closed, and starts nothing any more. -/
  forEver : (hub.queues.get id).closed = true → ∀ more later, WorkPath hub more later →
    (later.queues.get id).closed = true ∧ (requestsTo id more).flatMap WorkEvent.started = []

theorem obeys_of_orderly {hub : Hub} {id : QueueId} (known : id < hub.queues.size)
    (orderly : (hub.queues.get id).Orderly) : hub.Obeys id where
  submit := fun item own owned => by
    subst own
    have live : (hub.queueOf item).owners ≠ 0 := owned
    rw [run_submit, if_neg live]
    exact (askQueue_owned owned fun queue => queue.submit item).1
  submitted := fun item _ => submitted_submit hub item
  schedule := fun item delay own => by
    subst own
    exact timed_schedule hub item delay
  reschedule := fun item delay own => by
    subst own
    exact timed_reschedule hub item delay
  cancel := fun item own owned => by
    subst own
    obtain ⟨granted, idle, undelayed⟩ := WorkQueue.cancel_iff (hub.queueOf item) item
    obtain ⟨answer, held, _⟩ := askQueue_owned owned fun queue => queue.cancel item
    simp only [Hub.cancel, Hub.isPending, answer, held]
    exact ⟨granted, idle, undelayed⟩
  shutdown := by
    show ((hub.queues.set id _).get id).closed = true
    rw [Pool.get_set_same known]
    rfl
  refused := fun closed item delay own => by
    subst own
    obtain ⟨ready, _⟩ := orderly.empty closed
    obtain ⟨submit, schedule, reschedule⟩ := WorkQueue.refused_of_closed closed item (hub.clock + delay)
    have asked (ask : WorkQueue → Bool × WorkQueue) (refuses : (ask (hub.queueOf item)).1 = false) :
        ((askQueue item ask).run hub).1 = false := by
      rw [run_askQueue]
      split
      · rfl
      · exact refuses
    refine ⟨orderly.idle_of_not_mem (by simp [ready]), ?_,
      asked (fun queue => queue.schedule item (hub.clock + delay)) schedule,
      asked (fun queue => queue.reschedule item (hub.clock + delay)) reschedule⟩
    rw [run_submit]
    split
    · rfl
    · exact asked _ submit

theorem WorkPath.orderly {start after : Hub} {past : List WorkEvent} (path : WorkPath start past after) {id : QueueId}
    (known : id < start.queues.size) (orderly : (start.queues.get id).Orderly) : (after.queues.get id).Orderly := by
  obtain ⟨owners, held⟩ := (path.accounted known).queue
  have faithful := (Account.faithful_opening orderly).books ((requestsTo id past).map WorkEvent.request)
  rw [held]
  exact ⟨faithful.orderly.pending_iff, faithful.orderly.ready, faithful.orderly.delayed, faithful.orderly.empty⟩

theorem WorkPath.closed_forever {start after : Hub} {past : List WorkEvent} (path : WorkPath start past after)
    {id : QueueId} (known : id < start.queues.size) (orderly : (start.queues.get id).Orderly)
    (closed : (start.queues.get id).closed = true) :
    (after.queues.get id).closed = true ∧ (requestsTo id past).flatMap WorkEvent.started = [] := by
  induction path with
  | start => exact ⟨closed, rfl⟩
  | quiet path quiet ih =>
    obtain ⟨owners, same⟩ := quiet.queues id (Nat.lt_of_lt_of_le known path.size_le)
    refine ⟨?_, ih.2⟩
    rw [same]
    exact ih.1
  | @request past between event after path happens ih =>
    obtain ⟨closed, nothing⟩ := ih
    have there := path.orderly known orderly
    by_cases own : event.queue = id
    · have more : requestsTo id (past ++ [event]) = requestsTo id past ++ [event] := by simp [requestsTo, own]
      have ran := happens.started
      rw [own, there.started_eq_nil closed] at ran
      refine ⟨?_, by rw [more, List.flatMap_append, nothing]; simp [ran]⟩
      rw [happens.queues, own, Pool.get_set_same (own ▸ happens.known)]
      exact there.closed_after closed _
    · have same : requestsTo id (past ++ [event]) = requestsTo id past := by simp [requestsTo, own]
      refine ⟨?_, by rw [same, nothing]⟩
      rw [happens.queues, Pool.get_set_other (Ne.symm own)]
      exact closed

theorem WorkPath.inOrder {start hub : Hub} {past : List WorkEvent} (path : WorkPath start past hub) {id : QueueId}
    (known : id < start.queues.size) (orderly : (start.queues.get id).Orderly) : InOrder start id past hub := by
  have accounted := path.accounted known
  obtain ⟨owners, held⟩ := accounted.queue
  have faithful := (Account.faithful_opening orderly).books ((requestsTo id past).map WorkEvent.request)
  have now := path.orderly known orderly
  have there := Nat.lt_of_lt_of_le known path.size_le
  exact
    { pending_iff := fun item own => by
        subst own
        exact now.pending_iff item
      ready := now.ready
      delayed := now.delayed
      begun := path.begun_eq
      entries := by
        rw [accountOf, Account.items_books]
        simp [Account.opening, Function.comp_def]
      started := accounted.started.symm.trans faithful.started
      waiting := by
        rw [held]
        exact faithful.waiting
      joining := fun time => ⟨now.nodup_joining time, fun item => now.mem_joining_iff⟩
      obeys := obeys_of_orderly there now
      empty := now.empty
      forEver := fun closed more later next => next.closed_forever there now closed }

theorem allowsTurns_worked : AllowsTurns (Act.Keeps Worked) where
  look := passage_worked.get
  log := frame_worked.log
  turn := worked_takeTurn
  wait := frame_worked.waitUntil

theorem allowsRequests_worked : AllowsRequests (Act.Keeps Worked) where
  make := worked_newQueue
  makeItem := frame_worked.newItem
  submit := worked_submit
  schedule := worked_schedule
  reschedule := worked_reschedule
  cancel := worked_cancel
  shutdown := worked_shutdownQueue
  retain := worked_retainQueue
  release := worked_releaseQueue

end Hub

namespace Routine

open Hub

/-- At every point of every routine that asks queues for work in the ways there are, and of every application that
does, a queue that was orderly at the beginning has lost no run, doubled none and put none out of its turn. -/
theorem runs_in_order {app : Application σ} {routine : Routine σ α} {world : World σ} {id : QueueId}
    (application : app.Uses (Act.Keeps Worked)) (uses : routine.Uses (Act.Keeps Worked))
    (known : id < world.hub.queues.size) (orderly : (world.hub.queues.get id).Orderly) :
    AllowsRequests (Act.Keeps Worked) ∧
    (∃ history : Nat → List WorkEvent, ∀ limit,
      WorkPath world.hub (history limit) (routine.run app limit world).2.hub ∧
        history limit <+: history (limit + 1)) ∧
    ∀ past hub, WorkPath world.hub past hub → InOrder world.hub id past hub := by
  refine ⟨allowsRequests_worked, ?_, fun past hub path => path.inOrder known orderly⟩
  have bodies := application.body allowsTurns_worked
  have step (limit : Nat) : ∃ recent, WorkPath (routine.run app limit world).2.hub recent
      (routine.run app (limit + 1) world).2.hub := by
    rw [run_next]
    exact (uses.run bodies world limit).step_hub passage_worked (fun keeps => keeps) _
  obtain ⟨recent, paths⟩ := Classical.axiomOfChoice step
  have grown (limit : Nat) :
      (List.range (limit + 1)).flatMap recent = (List.range limit).flatMap recent ++ recent limit := by
    rw [List.range_succ, List.flatMap_append, List.flatMap_singleton]
  have path (limit : Nat) :
      WorkPath world.hub ((List.range limit).flatMap recent) (routine.run app limit world).2.hub := by
    induction limit with
    | zero => exact .start
    | succ limit ih =>
      rw [grown]
      exact ih.append (paths limit)
  exact ⟨fun limit => (List.range limit).flatMap recent, fun limit => ⟨path limit, recent limit, (grown limit).symm⟩⟩

/-- An application of which one handler asks for the other and drains the queue before it returns. -/
def nesting : Application Unit :=
  { Application.silent with
    work := fun behaviour => do
      if behaviour = 0 then
        discard (Hub.submit 1)
        discard (drain ownQueue) }

def nestingWorld : World Unit where
  hub := { fresh .standard with items := ⟨#[⟨"outer", .custom 0, ownQueue⟩, ⟨"inner", .custom 1, ownQueue⟩]⟩ }
  own := ()

/-- Submits the outer item and drains the queue. -/
def outerRun : Routine Unit Nat := do
  discard (Hub.submit 0)
  drain ownQueue

theorem runs_in_order_nesting : (outerRun.run nesting 40 nestingWorld).2.hub.begun = [0, 1] ∧
    ∃ past, InOrder nestingWorld.hub ownQueue past (outerRun.run nesting 40 nestingWorld).2.hub := by
  have application : nesting.Uses (Act.Keeps Worked) :=
    { Application.uses_silent with
      work := fun behaviour => by
        show Uses _ (if behaviour = 0 then _ else _)
        split
        · refine uses_bind (uses_bind (uses_act (worked_submit 1)) fun _ => uses_pure _) fun _ => ?_
          exact uses_bind (uses_ofCall _) fun _ => uses_pure _
        · exact uses_pure _ }
  have uses : outerRun.Uses (Act.Keeps Worked) :=
    uses_bind (uses_bind (uses_act (worked_submit 0)) fun _ => uses_pure _) fun _ => uses_ofCall _
  have known : ownQueue < nestingWorld.hub.queues.size := by decide
  have orderly : (nestingWorld.hub.queues.get ownQueue).Orderly := WorkQueue.orderly_fresh
  obtain ⟨_, ⟨history, paths⟩, inOrder⟩ := runs_in_order application uses known orderly
  exact ⟨by decide +kernel, history 40, inOrder _ _ (paths 40).1⟩

end Routine

end LeafHub
