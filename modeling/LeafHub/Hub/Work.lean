import LeafHub.Hub.Basic

namespace LeafHub.Hub

/-- The queue of an item. -/
def queueOf (hub : Hub) (id : ItemId) : WorkQueue :=
  hub.queues.get (hub.items.get id).queue

/-- Whether the item waits among the ready ones. -/
def isPending (hub : Hub) (id : ItemId) : Bool :=
  (hub.queueOf id).isPending id

/-- Asks the queue of an item, if anybody owns it, and says what it answered. -/
def askQueue (id : ItemId) (request : WorkQueue → Bool × WorkQueue) : Act Bool := do
  let hub ← get
  let queue := hub.queueOf id
  if queue.owners = 0 then return false
  let (answer, after) := request queue
  setQueue (hub.items.get id).queue after
  return answer

/-- Queues an item for its next run. -/
def submit (id : ItemId) : Act Bool := do
  let hub ← get
  if (hub.queueOf id).owners = 0 then
    let label := (hub.items.get id).label
    log .warn s!"work '{label}' submitted to a dropped queue"
    return false
  askQueue id fun queue => queue.submit id

/-- Queues an item after a delay, unless it waits for a deadline already. -/
def schedule (id : ItemId) (delay : Nat) : Act Bool := do
  let hub ← get
  askQueue id fun queue => queue.schedule id (hub.clock + delay)

/-- Queues an item after a delay, whatever it waited for before. -/
def reschedule (id : ItemId) (delay : Nat) : Act Bool := do
  let hub ← get
  askQueue id fun queue => queue.reschedule id (hub.clock + delay)

/-- Drops the next run of an item. -/
def cancel (id : ItemId) : Act Bool :=
  askQueue id fun queue => queue.cancel id

/-- Closes a queue. -/
def shutdownQueue (id : QueueId) : Act Unit := do
  setQueue id ((← get).queues.get id).shutdown

/-- Takes hold of a queue. -/
def retainQueue (id : QueueId) : Act Unit := do
  let queue := (← get).queues.get id
  setQueue id { queue with owners := queue.owners + 1 }

/-- Lets go of a queue. -/
def releaseQueue (id : QueueId) : Act Unit := do
  let queue := (← get).queues.get id
  setQueue id { queue with owners := queue.owners - 1 }

end LeafHub.Hub
