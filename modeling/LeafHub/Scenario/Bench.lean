import LeafHub.Execution
import LeafHub.Scenario.Answer
import LeafHub.Scenario.Step

namespace LeafHub.Scenario

/-- The script of a work item. -/
structure WorkScript where
  label : String
  steps : Script
  /-- How many runs are left that carry out the steps. -/
  left : Nat
  /-- The queue that the item closes. -/
  closes : Option QueueId
  deriving Inhabited

/-- The script of a class. -/
structure ClassScript where
  phases : Phase → PhaseScript Step
  deriving Inhabited

/-- The script of a command. -/
structure CommandScript where
  output : String
  /-- Whether the arguments are printed, too. -/
  echo : Bool
  code : Int
  steps : Script
  deriving Inhabited

/-- The script of a boot hook. -/
structure HookScript where
  label : String
  steps : Script
  fault : Option Fault
  deriving Inhabited

/-- A list of numbers that several hold in turn. -/
structure SharedList where
  label : String
  items : List Nat
  deriving Inhabited

/-- The last item of a worker that is queued after the worker started. -/
structure LateItem where
  item : ItemId
  time : Nat
  delay : Option Nat

structure Bench where
  cells : Directory CellId
  flags : Directory FlagsId
  works : Directory ItemId
  queues : Directory QueueId
  classes : Directory LeafClass
  leaves : Directory LeafId
  lists : Directory SharedList
  tables : Directory CommandTable
  workScripts : Pool WorkScript
  classScripts : Pool ClassScript
  commandScripts : Pool CommandScript
  hookScripts : Pool HookScript
  /-- The late items that are still to be queued, the earliest first. -/
  late : List LateItem
  /-- The late items that were taken. -/
  taken : List ItemId
  /-- How many happenings of the hub's journal have been looked at. -/
  seen : Nat
  trace : Array Answer

namespace Bench

/-- A bench with nothing on it. -/
def empty : Bench where
  cells := []
  flags := []
  works := []
  queues := []
  classes := []
  leaves := []
  lists := []
  tables := []
  workScripts := .empty
  classScripts := .empty
  commandScripts := .empty
  hookScripts := .empty
  late := []
  taken := []
  seen := 0
  trace := #[]

/-- Takes over the device lines that are new in a journal. -/
def catchUp (bench : Bench) (journal : Array Happening) : Bench :=
  let news := (journal.toSubarray bench.seen).toArray.filterMap Happening.deviceLine?
  { bench with seen := journal.size, trace := bench.trace ++ news.map Answer.text }

/-- Puts an entry at the end of the trace. -/
def record (bench : Bench) (entry : Answer) : Bench :=
  { bench with trace := bench.trace.push entry }

end Bench

/-- A routine on a bench. -/
abbrev Play := Routine Bench

namespace Play

/-- The bench. -/
def bench : Play Bench :=
  Routine.ofOwn get

def update (change : Bench → Bench) : Play Unit :=
  Routine.ofOwn (modify change)

/-- Puts an entry at the end of the trace, after what the devices did. -/
def trace (entry : Answer) : Play Unit := do
  let journal := (← get).journal
  update fun bench => (bench.catchUp journal).record entry

/-- The cell that a step names. -/
def cell? : CellRef → Play (Option CellId)
  | .listed catalogue name => do return (← get).findCell catalogue name
  | .kept id => do return (← bench).cells.get? id

/-- The leaf that a step names. -/
def leaf? : LeafRef → Play (Option LeafId)
  | .listed name => do return (← get).findLeaf name
  | .kept id => do return (← bench).leaves.get? id

/-- The queue of that name, or the hub's own. -/
def queueNamed (id : String) : Play QueueId := do
  return ((← bench).queues.get? id).getD Hub.ownQueue

def keepCell (id : String) (cell : CellId) : Play Unit :=
  update fun bench => { bench with cells := bench.cells.put id cell }

/-- Keeps a leaf, and lets go of the one that was kept under that name. -/
def keepLeaf (id : String) (leaf : LeafId) : Play Unit := do
  let former := (← bench).leaves.get? id
  update fun bench => { bench with leaves := bench.leaves.put id leaf }
  (former.forM Hub.release : Act Unit)

/-- Keeps a queue, and lets go of the one that was kept under that name. -/
def keepQueue (id : String) (queue : QueueId) : Play Unit := do
  let former := (← bench).queues.get? id
  update fun bench => { bench with queues := bench.queues.put id queue }
  (former.forM Hub.releaseQueue : Act Unit)

/-- Makes a work item with a script. -/
def newWork (script : WorkScript) (queue : QueueId) : Play ItemId := do
  let behaviour := (← bench).workScripts.size
  update fun bench => { bench with workScripts := bench.workScripts.add script }
  Hub.newItem ⟨script.label, .custom behaviour, queue⟩

/-- Carries on with an object, if there is one. -/
def found {α : Type} (sort : String) (object : Option α) (next : α → Play Answer) : Play Answer :=
  match object with
  | some a => next a
  | none => return .missing sort

end Play

end LeafHub.Scenario
