import LeafHub.Scenario.CellSteps

namespace LeafHub.Scenario.Play

def onWork (item : ItemId) : WorkRequest → Play Answer
  | .submit => do return .bool (← Hub.submit item)
  | .schedule delay => do return .bool (← Hub.schedule item delay)
  | .reschedule delay => do return .bool (← Hub.reschedule item delay)
  | .cancel => do return .bool (← Hub.cancel item)
  | .isPending => do return .bool ((← get).isPending item)
  | .label => do return .text ((← get).items.get item).label
  | .inspect => do
    let hub ← get
    return .text ("WorkItem \x7b label: " ++ Text.quoted (hub.items.get item).label ++ ", pending: " ++
      toString (hub.isPending item) ++ ", .. \x7d")

/-- Queues an item, for its next run or for a delay that is counted from a time. -/
def queueItem (item : ItemId) (time : Nat) : Option Nat → Play Bool
  | some delay => Hub.askQueue item fun queue => queue.schedule item (time + delay)
  | none => Hub.submit item

/-- Queues late items one after the other. -/
def queueLate : List LateItem → Play Unit
  | [] => return ()
  | late :: rest => do
    if ← queueItem late.item late.time late.delay then
      update fun bench => { bench with taken := late.item :: bench.taken }
    queueLate rest

/-- Queues the late items whose time has come. Time passes while a callback waits, so this is looked after when the
wait is over. -/
def admitLate : Play Unit := do
  let now := (← get).clock
  let (due, later) := (← bench).late.partition fun late => late.time ≤ now
  update fun bench => { bench with late := later }
  queueLate due

/-- Waits for the next late item, if nothing in the queue comes due before. -/
def idle (queue : QueueId) : Play Bool := do
  match (← bench).late with
  | [] => return false
  | late :: _ =>
    let hub ← get
    if ((hub.queues.get queue).nextDeadline?).any (· ≤ late.time) then return false
    Hub.waitUntil late.time
    admitLate
    return true

/-- The stack of a worker that follows no configuration, in kilobytes. -/
def plainStackKb : Nat := 2048

/-- Runs a worker until its last item closes the queue. Answers whether that item was taken. -/
def workUntilClosed (queue : QueueId) (worker : String) (delay : Option Nat) (late configured : Bool) :
    Play Bool := do
  let item ← newWork ⟨"sentinel", [], 0, some queue⟩ queue
  let hub ← get
  let stackKb := if configured then hub.config.workerStackKb.toNat else plainStackKb
  if late then
    let time := hub.clock + arrivalDelay
    update fun bench => { bench with late := bench.late ++ [⟨item, time, delay⟩] }
    Routine.work worker stackKb queue
    Hub.waitUntil time
    admitLate
    return (← bench).taken.contains item
  else
    let taken ← queueItem item hub.clock delay
    Routine.work worker stackKb queue
    return taken

def onQueue (queue : QueueId) : QueueRequest → Play Answer
  | .run => do
    Hub.retainQueue queue
    let ran ← Routine.drain queue
    Hub.releaseQueue queue
    return .ofNat ran
  | .sizes => do
    let state := (← get).queues.get queue
    return .list [.ofNat state.ready.length, .ofNat state.delayed.length]
  | .shutdown => do
    Hub.shutdownQueue queue
    return .ok
  | .inspect => do
    let count := ((← get).queues.get queue).ready.length
    return .text ("WorkQueue \x7b pending: " ++ toString count ++ ", .. \x7d")
  | .work worker delay late configured => do
    Hub.retainQueue queue
    let taken ← workUntilClosed queue worker delay late configured
    Hub.releaseQueue queue
    return .record [("queued", .bool taken), ("joined", .bool true)]

/-- Lets go of a queue. Answers whether there was one of that name. -/
def dropQueue (id : String) : Play Answer := do
  match (← bench).queues.get? id with
  | none => return .bool false
  | some queue =>
    update fun bench => { bench with queues := bench.queues.remove id }
    Hub.releaseQueue queue
    return .bool true

end LeafHub.Scenario.Play
