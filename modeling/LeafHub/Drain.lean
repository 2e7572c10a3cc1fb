import LeafHub.Routine

namespace LeafHub

/-- What came of a turn. -/
inductive Turn where
  /-- Nothing was ready. -/
  | nothing
  /-- An item of the hub's own leaves ran. -/
  | finished
  /-- The run of an item began that a behaviour of the application carries out. -/
  | handedOver (behaviour : BehaviourId)
  deriving DecidableEq

namespace Hub

/-- Runs a handler of the hub, or hands over to the application. -/
def runHandler : WorkHandler → Act Turn
  | .ledChange leaf => do
    ledChanged leaf
    return .finished
  | .keypadScan leaf => do
    tickKeypad leaf
    return .finished
  | .custom behaviour => return .handedOver behaviour

/-- Gives a queue a turn: what came due joins the ready items, and the first of these is taken out and run. Its flag
is down before its run begins. -/
def takeTurn (id : QueueId) : Act Turn := do
  let hub ← get
  let queue := (hub.queues.get id).promoteDue hub.clock
  setQueue id queue
  match queue.takeReady? with
  | none => return .nothing
  | some (item, rest) =>
    setQueue id rest
    let { label, handler, .. } := hub.items.get item
    note (.began item label)
    runHandler handler

end Hub

namespace Routine

variable {σ : Type}

/-- Runs everything that is ready in a queue and returns how many runs that took. -/
def drain (queue : QueueId) : Routine σ Nat :=
  ofCall (.drain queue 0)

/-- One round of a drain. -/
def drainRound (queue : QueueId) (ran : Nat) : Routine σ Nat := do
  match ← Hub.takeTurn queue with
  | .nothing => return ran
  | .finished => ofCall (.drain queue (ran + 1))
  | .handedOver behaviour =>
    ofCall (.work behaviour)
    ofCall (.drain queue (ran + 1))

/-- One round of a service. When nothing is ready the application may act; if it does not, the clock moves to the
next deadline, and if there is none either, nothing will ever be ready again. -/
def serveRound (queue : QueueId) : Routine σ Unit := do
  if ((← get).queues.get queue).closed then Hub.log .debug "work queue worker exiting"
  else match ← Hub.takeTurn queue with
    | .finished => ofCall (.serve queue)
    | .handedOver behaviour =>
      ofCall (.work behaviour)
      ofCall (.serve queue)
    | .nothing =>
      if ← ofCall (.idle queue) then ofCall (.serve queue)
      else match ((← get).queues.get queue).nextDeadline? with
        | some deadline =>
          Hub.waitUntil deadline
          ofCall (.serve queue)
        | none => return ()

/-- Starts a worker with a stack of that size and waits for its end. -/
def work (worker : String) (stackKb : Nat) (queue : QueueId) : Routine σ Unit := do
  Hub.log .info s!"Spawning '{worker}' (sim, no core pinning, stack={stackKb}KB)"
  ofCall (.serve queue)

end Routine

end LeafHub
