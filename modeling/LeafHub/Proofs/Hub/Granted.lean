import LeafHub.Proofs.Hub.MutationEffect
import LeafHub.Proofs.Work.Orderly

namespace LeafHub

namespace WorkQueue

/-- The item is the last of the ready ones, with its flag up, and nothing else is different. -/
structure Joined (queue : WorkQueue) (item : ItemId) (after : WorkQueue) : Prop where
  ready : after.ready = queue.ready ++ [item]
  flags : ∀ other, after.isPending other = true ↔ other = item ∨ queue.isPending other = true
  rest : after = { queue with ready := after.ready, raised := after.raised }

/-- The item waits for this deadline and for no other, and nothing else is different. -/
structure Deferred (queue : WorkQueue) (item : ItemId) (deadline : Nat) (after : WorkQueue) : Prop where
  once : (after.delayed.filter fun entry => entry.2 = item) = [(deadline, item)]
  others : (after.delayed.filter fun entry => entry.2 ≠ item) = queue.delayed.filter fun entry => entry.2 ≠ item
  rest : after = { queue with delayed := after.delayed }

variable {queue : WorkQueue} {item : ItemId}

theorem joined_enqueue (queue : WorkQueue) (item : ItemId) : queue.Joined item (queue.enqueue item) where
  ready := rfl
  flags := by simp [enqueue, isPending]
  rest := rfl

theorem submit_granted (opened : queue.closed = false) (idle : queue.isPending item = false) :
    (queue.submit item).1 = true ∧ queue.Joined item (queue.submit item).2 := by
  rw [submit, if_neg (by simp [opened, idle])]
  exact ⟨rfl, joined_enqueue queue item⟩

theorem submit_refused (passed : queue.closed = true ∨ queue.isPending item = true) :
    queue.submit item = (false, queue) := by
  rw [submit, if_pos (by simpa using passed)]

theorem filter_dropDelayed (queue : WorkQueue) (item : ItemId) :
    ((queue.dropDelayed item).delayed.filter fun entry => entry.2 = item) = [] := by
  simp [dropDelayed]

/-- A deadline for an item that has none. -/
theorem deferred_append (undelayed : (queue.delayed.filter fun entry => entry.2 = item) = []) (deadline : Nat) :
    queue.Deferred item deadline { queue with delayed := queue.delayed ++ [(deadline, item)] } where
  once := by
    rw [List.filter_append, undelayed]
    simp
  others := by simp
  rest := rfl

theorem schedule_granted (opened : queue.closed = false) (undelayed : queue.isDelayed item = false) (deadline : Nat) :
    (queue.schedule item deadline).1 = true ∧ queue.Deferred item deadline (queue.schedule item deadline).2 := by
  have none : (queue.delayed.filter fun entry => entry.2 = item) = [] := by
    simpa [isDelayed] using undelayed
  rw [schedule, if_neg (by simp [opened, undelayed])]
  exact ⟨rfl, deferred_append none deadline⟩

theorem schedule_refused (passed : queue.closed = true ∨ queue.isDelayed item = true) (deadline : Nat) :
    queue.schedule item deadline = (false, queue) := by
  rw [schedule, if_pos (by simpa using passed)]

theorem reschedule_granted (opened : queue.closed = false) (item : ItemId) (deadline : Nat) :
    (queue.reschedule item deadline).1 = true ∧ queue.Deferred item deadline (queue.reschedule item deadline).2 := by
  have deferred := deferred_append (filter_dropDelayed queue item) deadline
  have dropped : ((queue.dropDelayed item).delayed.filter fun entry => entry.2 ≠ item) =
      queue.delayed.filter fun entry => entry.2 ≠ item := by
    simp [dropDelayed]
  rw [reschedule, if_neg (by simp [opened])]
  exact ⟨rfl, deferred.once, deferred.others.trans dropped, rfl⟩

theorem reschedule_refused (closed : queue.closed = true) (item : ItemId) (deadline : Nat) :
    queue.reschedule item deadline = (false, queue) := by
  rw [reschedule, if_pos closed]

end WorkQueue

namespace Hub

/-- At most the queue of the item is another one. -/
def OnlyQueueOf (hub : Hub) (item : ItemId) (after : Hub) : Prop :=
  after = { hub with queues := hub.queues.set (hub.items.get item).queue (after.queueOf item) }

/-- What a submission comes to. An open queue that somebody owns takes the item, unless it is pending. -/
structure Submitted (hub : Hub) (item : ItemId) (after : Hub) : Prop where
  taken : (hub.queueOf item).owners ≠ 0 → (hub.queueOf item).closed = false → hub.isPending item = false →
    (hub.queueOf item).Joined item (after.queueOf item) ∧ hub.OnlyQueueOf item after
  passed : (hub.queueOf item).owners ≠ 0 → (hub.queueOf item).closed = true ∨ hub.isPending item = true → after = hub
  dropped : (hub.queueOf item).owners = 0 → hub.OnlyLogged after

/-- What a request for a deadline comes to, by whether it may be granted. -/
structure Timed (hub : Hub) (item : ItemId) (delay : Nat) (may : Prop) (ran : Bool × Hub) : Prop where
  granted : may → ran.1 = true ∧ (hub.queueOf item).Deferred item (hub.clock + delay) (ran.2.queueOf item) ∧
    hub.OnlyQueueOf item ran.2
  refused : ¬may → ran = (false, hub)

variable {hub : Hub} {item : ItemId} {ask : WorkQueue → Bool × WorkQueue}

/-- A queue that somebody owns is asked. -/
theorem askQueue_owned (owned : (hub.queueOf item).owners ≠ 0) (ask : WorkQueue → Bool × WorkQueue) :
    ((askQueue item ask).run hub).1 = (ask (hub.queueOf item)).1 ∧
      ((askQueue item ask).run hub).2.queueOf item = (ask (hub.queueOf item)).2 ∧
      hub.OnlyQueueOf item ((askQueue item ask).run hub).2 := by
  rw [run_askQueue, if_neg owned]
  have held : queueOf { hub with queues := hub.queues.set (hub.items.get item).queue (ask (hub.queueOf item)).2 } item =
      (ask (hub.queueOf item)).2 := Pool.get_set_same (known_of_owned owned) _
  refine ⟨rfl, held, ?_⟩
  rw [OnlyQueueOf, held]

theorem askQueue_refused (refused : (hub.queueOf item).owners ≠ 0 → ask (hub.queueOf item) = (false, hub.queueOf item)) :
    (askQueue item ask).run hub = (false, hub) := by
  rw [run_askQueue]
  split
  · rfl
  · rename_i owned
    rw [refused owned]
    show (false, { hub with queues := hub.queues.set (hub.items.get item).queue (hub.queues.get (hub.items.get item).queue) }) = _
    rw [Pool.set_get]

theorem submitted_submit (hub : Hub) (item : ItemId) : hub.Submitted item ((submit item).run hub).2 where
  taken := fun owned opened idle => by
    obtain ⟨_, held, only⟩ := askQueue_owned owned fun queue => queue.submit item
    rw [run_submit, if_neg owned, held]
    exact ⟨(WorkQueue.submit_granted opened idle).2, only⟩
  passed := fun owned passed => by
    rw [run_submit, if_neg owned, askQueue_refused fun _ => WorkQueue.submit_refused passed]
  dropped := fun dropped => by
    rw [run_submit, if_pos dropped]
    exact onlyLogged_log _ _ hub

theorem run_schedule (hub : Hub) (item : ItemId) (delay : Nat) : (schedule item delay).run hub =
    (askQueue item fun queue => queue.schedule item (hub.clock + delay)).run hub := rfl

theorem run_reschedule (hub : Hub) (item : ItemId) (delay : Nat) : (reschedule item delay).run hub =
    (askQueue item fun queue => queue.reschedule item (hub.clock + delay)).run hub := rfl

theorem timed_schedule (hub : Hub) (item : ItemId) (delay : Nat) :
    hub.Timed item delay ((hub.queueOf item).owners ≠ 0 ∧ (hub.queueOf item).closed = false ∧
      (hub.queueOf item).isDelayed item = false) ((schedule item delay).run hub) where
  granted := by
    rintro ⟨owned, opened, undelayed⟩
    obtain ⟨answer, held, only⟩ := askQueue_owned owned fun queue => queue.schedule item (hub.clock + delay)
    obtain ⟨granted, deferred⟩ := WorkQueue.schedule_granted opened undelayed (hub.clock + delay)
    rw [run_schedule, answer, held]
    exact ⟨granted, deferred, only⟩
  refused := fun may => by
    rw [run_schedule]
    refine askQueue_refused fun owned => WorkQueue.schedule_refused ?_ _
    by_contra free
    simp only [not_or, Bool.not_eq_true] at free
    exact may ⟨owned, free⟩

theorem timed_reschedule (hub : Hub) (item : ItemId) (delay : Nat) :
    hub.Timed item delay ((hub.queueOf item).owners ≠ 0 ∧ (hub.queueOf item).closed = false)
      ((reschedule item delay).run hub) where
  granted := by
    rintro ⟨owned, opened⟩
    obtain ⟨answer, held, only⟩ := askQueue_owned owned fun queue => queue.reschedule item (hub.clock + delay)
    obtain ⟨granted, deferred⟩ := WorkQueue.reschedule_granted opened item (hub.clock + delay)
    rw [run_reschedule, answer, held]
    exact ⟨granted, deferred, only⟩
  refused := fun may => by
    rw [run_reschedule]
    refine askQueue_refused fun owned => WorkQueue.reschedule_refused ?_ _ _
    by_contra opened
    rw [Bool.not_eq_true] at opened
    exact may ⟨owned, opened⟩

end Hub

end LeafHub
