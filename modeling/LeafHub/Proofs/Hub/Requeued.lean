import LeafHub.Proofs.Hub.Frame

namespace LeafHub.Hub

theorem known_of_owned {hub : Hub} {id : QueueId} (owned : (hub.queues.get id).owners ≠ 0) : id < hub.queues.size := by
  rcases Nat.lt_or_ge id hub.queues.size with known | unknown
  · exact known
  · rw [Pool.get_unknown unknown] at owned
    exact absurd rfl owned

theorem run_askQueue (hub : Hub) (item : ItemId) (ask : WorkQueue → Bool × WorkQueue) :
    (askQueue item ask).run hub = if (hub.queueOf item).owners = 0 then (false, hub) else
      ((ask (hub.queueOf item)).1,
        { hub with queues := hub.queues.set (hub.items.get item).queue (ask (hub.queueOf item)).2 }) := by
  unfold askQueue
  simp only [StateT.run_bind, StateT.run_get, pure_bind]
  split <;> rfl

/-- The queue of the item has been asked, and the others have not. -/
theorem get_asked (hub : Hub) (item : ItemId) (ask : WorkQueue → Bool × WorkQueue) (id : QueueId) :
    (hub.queues.set (hub.items.get item).queue (ask (hub.queueOf item)).2).get id =
      if id = (hub.items.get item).queue ∧ (hub.items.get item).queue < hub.queues.size then
        (ask (hub.queues.get id)).2 else hub.queues.get id := by
  rw [Pool.get_set]
  split
  · rename_i here
    rw [here.1, queueOf]
  · rfl

/-- If nobody owns the queue, there is a line in the log instead of a request. -/
theorem run_submit (hub : Hub) (item : ItemId) : (submit item).run hub =
    if (hub.queueOf item).owners = 0 then
      (false, ((log .warn s!"work '{(hub.items.get item).label}' submitted to a dropped queue").run hub).2)
    else (askQueue item fun queue => queue.submit item).run hub := by
  unfold submit
  simp only [StateT.run_bind, StateT.run_get, pure_bind]
  split <;> rfl

theorem keeps_submit {R : Hub → Hub → Prop} {item : ItemId} (logged : ∀ level line, Act.Keeps R (log level line))
    (asked : Act.Keeps R (askQueue item fun queue => queue.submit item)) : Act.Keeps R (submit item) := by
  intro hub
  rw [run_submit]
  split
  · exact logged _ _ hub
  · exact asked hub

/-- At most queues and journal are different. -/
def Requeued (hub after : Hub) : Prop :=
  ∃ queues journal, after = { hub with queues, journal }

theorem passage_requeued : Passage Requeued where
  refl := fun hub => ⟨hub.queues, hub.journal, rfl⟩
  trans := by
    rintro first _ _ ⟨queues, journal, rfl⟩ ⟨queues', journal', rfl⟩
    exact ⟨queues', journal', rfl⟩

theorem requeued_log (level : Level) (line : String) : Act.Keeps Requeued (log level line) :=
  fun hub => ⟨hub.queues, _, rfl⟩

theorem requeued_note (happening : Happening) : Act.Keeps Requeued (note happening) :=
  fun hub => ⟨hub.queues, _, rfl⟩

theorem requeued_askQueue (id : ItemId) (request : WorkQueue → Bool × WorkQueue) :
    Act.Keeps Requeued (askQueue id request) := by
  intro hub
  rw [run_askQueue]
  split
  · exact passage_requeued.refl hub
  · exact ⟨_, hub.journal, rfl⟩

theorem requeued_submit (id : ItemId) : Act.Keeps Requeued (submit id) :=
  keeps_submit requeued_log (requeued_askQueue id _)

theorem requeued_schedule (id : ItemId) (delay : Nat) : Act.Keeps Requeued (schedule id delay) :=
  passage_requeued.bind passage_requeued.get fun _ => requeued_askQueue id _

theorem requeued_reschedule (id : ItemId) (delay : Nat) : Act.Keeps Requeued (reschedule id delay) :=
  passage_requeued.bind passage_requeued.get fun _ => requeued_askQueue id _

theorem requeued_cancel (id : ItemId) : Act.Keeps Requeued (cancel id) :=
  requeued_askQueue id _

theorem requeued_told (id : CellId) (happening : Happening) : Act.Keeps Requeued (do
    note happening
    notify id) :=
  passage_requeued.told (requeued_note happening) requeued_submit id

theorem requeued_notify (id : CellId) : Act.Keeps Requeued (notify id) :=
  passage_requeued.notify requeued_submit id

end LeafHub.Hub
