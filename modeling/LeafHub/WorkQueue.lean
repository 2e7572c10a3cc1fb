namespace LeafHub

/-- The number of a work item. -/
abbrev ItemId := Nat

/-- The items that are ready to run, first in first out, and those that wait for a deadline. The pending flag of an item
is up from the moment it becomes ready until its run begins; meanwhile it is not queued again. -/
structure WorkQueue where
  ready : List ItemId
  /-- The waiting items with their deadlines. -/
  delayed : List (Nat × ItemId)
  /-- The items whose pending flag is up. -/
  raised : List ItemId
  closed : Bool
  /-- How many owners the queue has. Without an owner it takes no more work. -/
  owners : Nat
  deriving Inhabited

namespace WorkQueue

/-- A new queue with one owner. -/
def fresh : WorkQueue where
  ready := []
  delayed := []
  raised := []
  closed := false
  owners := 1

def isPending (queue : WorkQueue) (item : ItemId) : Bool :=
  queue.raised.contains item

def isDelayed (queue : WorkQueue) (item : ItemId) : Bool :=
  queue.delayed.any fun entry => entry.2 = item

/-- Raises the flag of an item and puts it at the end of the ready items. -/
def enqueue (queue : WorkQueue) (item : ItemId) : WorkQueue :=
  { queue with ready := queue.ready ++ [item], raised := item :: queue.raised }

def lower (queue : WorkQueue) (item : ItemId) : WorkQueue :=
  { queue with raised := queue.raised.filter (· ≠ item) }

def dropDelayed (queue : WorkQueue) (item : ItemId) : WorkQueue :=
  { queue with delayed := queue.delayed.filter fun entry => entry.2 ≠ item }

/-- Queues an item, unless the queue is closed or the item is pending. -/
def submit (queue : WorkQueue) (item : ItemId) : Bool × WorkQueue :=
  if queue.closed || queue.isPending item then (false, queue) else (true, queue.enqueue item)

/-- Gives an item a deadline, unless the queue is closed or the item has one already. -/
def schedule (queue : WorkQueue) (item : ItemId) (deadline : Nat) : Bool × WorkQueue :=
  if queue.closed || queue.isDelayed item then (false, queue)
  else (true, { queue with delayed := queue.delayed ++ [(deadline, item)] })

/-- Gives an item a deadline in place of the one it may have, unless the queue is closed. -/
def reschedule (queue : WorkQueue) (item : ItemId) (deadline : Nat) : Bool × WorkQueue :=
  if queue.closed then (false, queue)
  else
    let rest := queue.dropDelayed item
    (true, { rest with delayed := rest.delayed ++ [(deadline, item)] })

/-- Takes an item out of both lists. Says whether it was in one. -/
def cancel (queue : WorkQueue) (item : ItemId) : Bool × WorkQueue :=
  let undelayed := queue.dropDelayed item
  if queue.isPending item then
    (true, { undelayed.lower item with ready := queue.ready.filter (· ≠ item) })
  else (queue.isDelayed item, undelayed)

/-- The list with its last element in front. -/
def lastFirst {α : Type} : List α → List α
  | [] => []
  | x :: xs => (x :: xs).getLast (List.cons_ne_nil x xs) :: (x :: xs).dropLast

theorem length_lastFirst {α : Type} (xs : List α) : (lastFirst xs).length = xs.length := by
  cases xs <;> simp [lastFirst]

/-- Queues an item that came due, unless it is pending. -/
def promote (queue : WorkQueue) (item : ItemId) : WorkQueue :=
  if queue.isPending item then queue else queue.enqueue item

/-- Looks through the waiting items from the front. One that is due leaves the list, and the last of the list takes
its place and is looked at next. `kept` are the items that were looked at and stay. -/
def promoteFrom (now : Nat) (kept : List (Nat × ItemId)) (queue : WorkQueue) :
    List (Nat × ItemId) → WorkQueue
  | [] => { queue with delayed := kept }
  | entry :: rest =>
    if entry.1 ≤ now then promoteFrom now kept (queue.promote entry.2) (lastFirst rest)
    else promoteFrom now (kept ++ [entry]) queue rest
termination_by waiting => waiting.length
decreasing_by
  · simp [length_lastFirst]
  · simp

/-- Moves every item whose deadline has come to the ready items. -/
def promoteDue (queue : WorkQueue) (now : Nat) : WorkQueue :=
  promoteFrom now [] queue queue.delayed

/-- Takes the first ready item out and lowers its flag. -/
def takeReady? (queue : WorkQueue) : Option (ItemId × WorkQueue) :=
  match queue.ready with
  | [] => none
  | item :: rest => some (item, { queue.lower item with ready := rest })

/-- The earliest deadline. -/
def nextDeadline? (queue : WorkQueue) : Option Nat :=
  (queue.delayed.map Prod.fst).min?

/-- Drops everything and takes no more work. -/
def shutdown (queue : WorkQueue) : WorkQueue :=
  { queue with
    ready := []
    delayed := []
    raised := queue.raised.filter fun item => !queue.ready.contains item
    closed := true }

end WorkQueue

end LeafHub
