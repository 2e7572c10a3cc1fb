import LeafHub.CommandTable
import LeafHub.Config.Basic
import LeafHub.Identity
import LeafHub.Journal
import LeafHub.Pool
import LeafHub.Store.Medium

namespace LeafHub

/-- The number of a work queue. -/
abbrev QueueId := Nat

/-- What a work item does when its turn comes. The leaf of an item may be gone by then. -/
inductive WorkHandler where
  /-- Brings the pin of an LED leaf in line with its cells. -/
  | ledChange (leaf : LeafId)
  /-- Reads the keys of a keypad leaf and asks for the next turn. -/
  | keypadScan (leaf : LeafId)
  | custom (behaviour : BehaviourId)
  deriving DecidableEq, Inhabited

/-- A handler bound to a queue. -/
structure WorkItem where
  label : String
  handler : WorkHandler
  queue : QueueId
  deriving DecidableEq, Inhabited

/-- The two lists of registered cells. A name may stand in both. -/
inductive Catalogue where
  /-- The variables. -/
  | runtime
  /-- The settings. -/
  | persistent
  deriving DecidableEq, Repr, Inhabited

def Catalogue.label : Catalogue → String
  | .runtime => "variable"
  | .persistent => "setting"

/-- The catalogue of classes, leaves, variables, settings and commands, the work queues, and the devices and stores at
the edge. -/
structure Hub where
  config : Config
  classes : List LeafClass
  leafList : List LeafId
  /-- Whether somebody is looking through the list of leaves. -/
  leafListHeld : Bool
  variableList : List CellId
  settingList : List CellId
  commands : CommandTable
  identity : Identity
  initialised : Bool
  cells : Pool Cell
  flags : Pool UInt32
  queues : Pool WorkQueue
  items : Pool WorkItem
  leaves : Pool Leaf
  pins : Directory Pin
  buses : Directory Bus
  media : Directory Medium
  /-- The time in milliseconds. It moves only while somebody waits. -/
  clock : Nat
  journal : Array Happening

namespace Hub

/-- The queue that every hub has. -/
def ownQueue : QueueId := 0

/-- A hub with nothing registered. -/
def fresh (config : Config) : Hub where
  config
  classes := []
  leafList := []
  leafListHeld := false
  variableList := []
  settingList := []
  commands := .empty
  identity := .blank
  initialised := false
  cells := .empty
  flags := .empty
  queues := Pool.empty.add .fresh
  items := .empty
  leaves := .empty
  pins := []
  buses := []
  media := []
  clock := 0
  journal := #[]

instance : Inhabited Hub := ⟨fresh default⟩

def listed (hub : Hub) : Catalogue → List CellId
  | .runtime => hub.variableList
  | .persistent => hub.settingList

def cell (hub : Hub) (id : CellId) : Cell :=
  hub.cells.get id

def leaf (hub : Hub) (id : LeafId) : Leaf :=
  hub.leaves.get id

/-- The value of a cell. -/
def value (hub : Hub) (id : CellId) : Value :=
  let payload := (hub.cell id).payload
  payload.value (hub.flags.get (payload.flags?.getD 0))

/-- Name, kind and value of a cell in one line. -/
def describe (hub : Hub) (id : CellId) : String :=
  (hub.cell id).name ++ "=(" ++ (hub.cell id).kind.name ++ ")[" ++ (hub.value id).text ++ "]"

/-- Whether anybody still holds on to the leaf. -/
def isAlive (hub : Hub) (id : LeafId) : Bool :=
  0 < (hub.leaf id).owners || hub.leafList.contains id

def pin (hub : Hub) (name : String) : Pin :=
  (hub.pins.get? name).getD .fresh

def bus (hub : Hub) (name : String) : Bus :=
  (hub.buses.get? name).getD .fresh

def medium (hub : Hub) (name : String) : Medium :=
  (hub.media.get? name).getD .empty

end Hub

/-- A step of the hub. -/
abbrev Act := StateM Hub

/-- A step of the hub that may fail. What it did before it failed stays done. -/
abbrev Attempt := ExceptT Fault Act

namespace Hub

def note (happening : Happening) : Act Unit :=
  modify fun hub => { hub with journal := hub.journal.push happening }

def log (level : Level) (line : String) : Act Unit :=
  note (.log level line)

def setCell (id : CellId) (cell : Cell) : Act Unit :=
  modify fun hub => { hub with cells := hub.cells.set id cell }

def setFlags (id : FlagsId) (bits : UInt32) : Act Unit :=
  modify fun hub => { hub with flags := hub.flags.set id bits }

def setQueue (id : QueueId) (queue : WorkQueue) : Act Unit :=
  modify fun hub => { hub with queues := hub.queues.set id queue }

def setLeaf (id : LeafId) (leaf : Leaf) : Act Unit :=
  modify fun hub => { hub with leaves := hub.leaves.set id leaf }

def setContext (id : LeafId) (context : Context) : Act Unit := do
  setLeaf id { (← get).leaf id with context := some context }

def setPin (name : String) (pin : Pin) : Act Unit :=
  modify fun hub => { hub with pins := hub.pins.put name pin }

def setBus (name : String) (bus : Bus) : Act Unit :=
  modify fun hub => { hub with buses := hub.buses.put name bus }

def setMedium (name : String) (medium : Medium) : Act Unit :=
  modify fun hub => { hub with media := hub.media.put name medium }

/-- Moves the clock forward to a time that is not past yet. -/
def waitUntil (time : Nat) : Act Unit :=
  modify fun hub => { hub with clock := max hub.clock time }

/-- Makes an event object. -/
def newFlags (bits : UInt32) : Act FlagsId := do
  let hub ← get
  set { hub with flags := hub.flags.add bits }
  return hub.flags.size

/-- Makes a work item. -/
def newItem (item : WorkItem) : Act ItemId := do
  let hub ← get
  set { hub with items := hub.items.add item }
  return hub.items.size

/-- Makes a work queue. -/
def newQueue : Act QueueId := do
  let hub ← get
  set { hub with queues := hub.queues.add .fresh }
  return hub.queues.size

/-- Makes a leaf. It is not listed before its init. -/
def newLeaf (leaf : Leaf) : Act LeafId := do
  let hub ← get
  set { hub with leaves := hub.leaves.add leaf }
  return hub.leaves.size

/-- Takes hold of a leaf. -/
def retain (id : LeafId) : Act Unit := do
  let leaf := (← get).leaf id
  setLeaf id { leaf with owners := leaf.owners + 1 }

/-- Lets go of a leaf. -/
def release (id : LeafId) : Act Unit := do
  let leaf := (← get).leaf id
  setLeaf id { leaf with owners := leaf.owners - 1 }

end Hub

end LeafHub
