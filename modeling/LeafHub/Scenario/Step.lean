import LeafHub.Leaf
import LeafHub.Hub.Basic

namespace LeafHub.Scenario

/-- How a step names a cell. -/
inductive CellRef where
  | listed (catalogue : Catalogue) (name : String)
  | kept (id : String)

/-- How a step names a leaf. -/
inductive LeafRef where
  | listed (name : String)
  | kept (id : String)

/-- What can be asked of a cell. -/
inductive CellRequest where
  | get
  | describe
  | info
  | inspect
  /-- Reads the raw value into a buffer of that size. -/
  | readRaw (size : Nat)
  | storeRaw (raw : Bytes)
  | storeText (text : String)
  | store (value : Value)
  | getKind (kind : Kind)
  | count (delta : Int64)
  | post (bits : UInt32)
  | wait (mask : UInt32) (reset : Bool) (limit : Option Nat)
  /-- Keeps the event object of the cell. -/
  | keepFlags (id : String)
  | subscribe (work : String)
  | unsubscribe
  | isSame (other : CellRef)
  | readCharacteristic (offset limit : Nat)
  | writeCharacteristic (data : Bytes) (offset : Nat) (limit : Option Nat)
  | persist (store : String)
  | setAndPersist (store text : String)

/-- What can be asked of a work item. -/
inductive WorkRequest where
  | submit
  | schedule (delay : Nat)
  | reschedule (delay : Nat)
  | cancel
  | isPending
  | label
  | inspect

/-- What can be asked of a queue. -/
inductive QueueRequest where
  | run
  | sizes
  | shutdown
  | inspect
  /-- Runs a worker until a last item closes the queue. The item is submitted, or scheduled after a delay, before the
  worker starts or `late`. -/
  | work (worker : String) (delay : Option Nat) (late configured : Bool)

/-- What can be asked of a store. -/
inductive StoreRequest where
  | write (ns key : String) (value : Bytes)
  /-- Reads into a buffer of that size. -/
  | read (ns key : String) (size : Nat)
  | delete (ns key : String)
  | contains (ns key : String)
  | entries (ns : String)
  | erase (ns : String)
  | inspect
  /-- Sets the faults of the store; `keys` are those of writes to single keys. -/
  | plan (write read entries : Option StorageFault) (keys : List (String × StorageFault)) (extra : List Entry)

/-- What can be asked of the settings. -/
inductive SettingsRequest where
  | add (id name : String) (value : Value)
  | key (name : String)
  | handleSet (key : String) (raw : Bytes)
  | commit
  /-- Offers every setting to somebody who refuses some of them. -/
  | offer (refused : List (String × Fault))
  | load (store : String)
  | saveAll (store : String)
  | entries (store : String)

/-- The sorts of context that can be asked for. -/
inductive ContextSort where
  | number
  | text
  | led
  | keypad
  | settings

/-- What can be asked of a leaf. -/
inductive LeafRequest where
  | info
  | inspect
  | register
  | init
  | start
  | callClass (phase : Phase)
  /-- Lets go of the leaf. -/
  | drop
  | setContext (context : Option Context)
  | context (sort : ContextSort)
  | applyLed
  | darkenLed
  | scan
  /-- Loads and saves the settings with the store of the leaf. -/
  | loadSettings
  | saveSettings
  | storeEntries (ns : String)

/-- What can be asked of the hub. -/
inductive HubRequest where
  | list (catalogue : Catalogue)
  | register (catalogue : Catalogue) (cells : List CellRef)
  | listInfo (catalogue : Catalogue)
  | log (catalogue : Catalogue)
  | initialise
  | isInitialised
  | identity
  | inspect
  | registerClass (id : String)
  | classes
  | findClass (name : String)
  | leaves
  | findLeaf (name : String)
  /-- Looks for a leaf by the end of its name and by its flags. -/
  | findLeafBy (className : Option String) (ending : String) (ready running : Option Bool)
  /-- Looks for the first leaf at which initialising the hub fails. -/
  | findLeafInitialising (className : Option String)
  /-- Boots from the shell at every leaf. -/
  | findLeafBooting (className : Option String)
  | state (name : String)
  | start (name : String)
  | stop (name : String)
  | preSleep
  | postSleep
  | commands
  | findCommand (name : String)

/-- What can be asked of an event object. -/
inductive EventRequest where
  | make
  | post (bits : UInt32)
  | set (bits : UInt32)
  | clear (bits : UInt32)
  | keepAlso (other : String)
  | isSame (other : String)
  | wait (mask : UInt32) (reset : Bool) (limit : Option Nat) (arrival : Option UInt32)

/-- What can be asked of a list of numbers that several hold in turn. -/
inductive SharedListRequest where
  | make (label : String)
  | label
  | get
  /-- Asks for the list for some time while somebody else holds it. -/
  | contend (time : Nat)
  | push (n : Nat)
  /-- One holder appends a number, and one who waits for the list another one. -/
  | pushBoth (n later : Nat)
  /-- A holder appends a number and dies. -/
  | abandon (n : Nat)

/-- What can be asked of a command table of its own. -/
inductive TableRequest where
  | insert (name help : String)
  | find (name : String)
  | names

/-- The script of one phase of a class. -/
structure PhaseScript (σ : Type) where
  /-- The faults of single leaves. -/
  faults : List (String × Fault)
  /-- The outcomes of the calls, from the first one on; later calls succeed. -/
  outcomes : List (Option Fault)
  steps : List (String × σ)
  deriving Inhabited

/-- What a class does: something the hub knows, or a script for each phase. -/
inductive ClassBehaviour (σ : Type) where
  | known (callbacks : Callbacks)
  | scripted (init start stop preSleep postSleep : PhaseScript σ)
  deriving Inhabited

/-- An entry of a boot table. -/
inductive BootLine (σ : Type) where
  | defineClass (id : String)
  | defineLeaf (id className name : String) (context : Option Context)
  | hook (priority : Nat) (label : String) (steps : List (String × σ)) (fault : Option Fault)
  deriving Inhabited

/-- A step of a scenario. -/
inductive Step where
  | newCell (id name : String) (value : Value)
  | newCells (id : String) (rows : List Definition) (leaf : Option String)
  | newClass (id name : String) (parent : Option String) (behaviour : ClassBehaviour Step)
  | newLeaf (id className name : String) (context : Option Context)
  | newWork (id label queue : String) (steps : List (String × Step)) (times : Nat)
  | newQueue (id : String)
  | dropQueue (id : String)
  | newCommand (name help output : String) (echo : Bool) (code : Int) (steps : List (String × Step))
  | planPin (id : String) (faults : List Bool)
  | planBus (id : String) (reads : Bytes) (faults : List (Option BusFault))
  | cell (ref : CellRef) (request : CellRequest)
  | work (id : String) (request : WorkRequest)
  | queue (id : String) (request : QueueRequest)
  | store (id : String) (request : StoreRequest)
  | settings (request : SettingsRequest)
  | leaf (ref : LeafRef) (request : LeafRequest)
  | hub (request : HubRequest)
  | event (id : String) (request : EventRequest)
  | sharedList (id : String) (request : SharedListRequest)
  | table (id : String) (request : TableRequest)
  | shellLine (line : String)
  | shellWords (args : List String)
  | settingCommand (store : String) (args : List String)
  | boot (lines : List (BootLine Step))
  /-- Runs a boot table at every listed leaf of a class. -/
  | findLeafBootingTable (className : Option String) (lines : List (BootLine Step))

instance : Inhabited Step := ⟨.hub .isInitialised⟩

/-- Steps of a callback, each beside the name that traces give it. -/
abbrev Script := List (String × Step)

end LeafHub.Scenario
