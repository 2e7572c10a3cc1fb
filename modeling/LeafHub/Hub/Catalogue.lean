import LeafHub.Hub.Cells

namespace LeafHub.Hub

/-- The first cell of a name. -/
def findCell (hub : Hub) (catalogue : Catalogue) (name : String) : Option CellId :=
  (hub.listed catalogue).find? fun id => (hub.cell id).name = name

def findVariable (hub : Hub) (name : String) : Option CellId :=
  hub.findCell .runtime name

def findSetting (hub : Hub) (name : String) : Option CellId :=
  hub.findCell .persistent name

/-- Puts a cell at the end of a list. -/
def append (catalogue : Catalogue) (id : CellId) : Act Unit :=
  modify fun hub => match catalogue with
    | .runtime => { hub with variableList := hub.variableList ++ [id] }
    | .persistent => { hub with settingList := hub.settingList ++ [id] }

/-- Registers the cells from the one with number `index` of `total` on. -/
def registerFrom (catalogue : Catalogue) (total : Nat) : Nat → List CellId → Act Unit
  | _, [] => pure ()
  | index, id :: rest => do
    let hub ← get
    let cell := hub.cell id
    if (hub.findCell catalogue cell.name).isSome then
      log .error s!"duplicate {catalogue.label} name '{cell.name}'"
    log .debug s!"register {catalogue.label} {index}/{total}: {cell.name} kind={cell.kind.name}"
    append catalogue id
    registerFrom catalogue total (index + 1) rest

/-- Registers cells. A second cell of a name is reported and kept. -/
def register (catalogue : Catalogue) (ids : List CellId) : Act Unit :=
  registerFrom catalogue ids.length 0 ids

def registerVariables (ids : List CellId) : Act Unit :=
  register .runtime ids

def registerSettings (ids : List CellId) : Act Unit := do
  log .info s!"register {ids.length} settings"
  register .persistent ids

/-- Makes a setting and registers it. -/
def addSetting (name : String) (initial : Value) : Act CellId := do
  let id ← newCell name initial
  register .persistent [id]
  return id

/-- Logs a line for every cell. -/
def showCells (indent : String) (ids : List CellId) : Act Unit := do
  let hub ← get
  ids.forM fun id => log .info (indent ++ hub.describe id)

/-- Empties the lists of classes and leaves and works out the identity. This fails, and changes nothing, while the
list of leaves is held. -/
def initialise : Attempt Unit := do
  log .info "registry initialise"
  let hub ← get
  if hub.leafListHeld then
    log .error "registry mutex is held, that's impossible"
    throw .lockTimeout
  let identity := Identity.ofThisMachine hub.config.nameBase.text
  modify fun hub => { hub with classes := [], leafList := [] }
  log .info s!"NOTICE Hardware id is '{identity.hex}' [{identity.short}]"
  modify fun hub => { hub with identity, initialised := true }
  log .info "registry initialise OK"

/-- Registers a class. A second class of a name is reported and kept. -/
def registerClass (leafClass : LeafClass) : Act Unit := do
  log .debug s!"class register {leafClass.name}"
  if (← get).classes.any fun other => other.name = leafClass.name then
    log .error s!"duplicate class name '{leafClass.name}'"
  modify fun hub => { hub with classes := hub.classes ++ [leafClass] }

/-- Lists a leaf. A leaf that is listed stays where it is; a second leaf of a name is reported and kept. -/
def registerLeaf (id : LeafId) : Act Unit := do
  let hub ← get
  if hub.leafList.contains id then return ()
  let name := (hub.leaf id).name
  if hub.leafList.any fun other => (hub.leaf other).name = name then
    log .error s!"duplicate leaf name '{name}'"
  modify fun hub => { hub with leafList := hub.leafList ++ [id] }

def findClass (hub : Hub) (name : String) : Option LeafClass :=
  hub.classes.find? fun leafClass => leafClass.name = name

def findLeaf (hub : Hub) (name : String) : Option LeafId :=
  hub.leafList.find? fun id => (hub.leaf id).name = name

/-- The listed leaves of a class, or all of them. -/
def leavesOf (hub : Hub) (className : Option String) : List LeafId :=
  hub.leafList.filter fun id => className.all fun name => (hub.leaf id).leafClass.name = name

/-- The first listed leaf of a class that is accepted. -/
def findLeafBy (hub : Hub) (className : Option String) (accepts : LeafId → Bool) : Option LeafId :=
  (hub.leavesOf className).find? accepts

/-- Takes or frees the list of leaves. -/
def holdLeafList (held : Bool) : Act Unit :=
  modify fun hub => { hub with leafListHeld := held }

def isLeafReady (hub : Hub) (name : String) : Bool :=
  (hub.findLeaf name).any fun id => (hub.leaf id).ready

def isLeafRunning (hub : Hub) (name : String) : Bool :=
  (hub.findLeaf name).any fun id => (hub.leaf id).running

/-- Adds a command to a table, with the lines that this leaves in the log. -/
def insertCommand (table : CommandTable) (command : Command) : Attempt CommandTable := do
  log .debug s!"command register {command.name}"
  match table.insert command with
  | .ok after => return after
  | .error fault =>
    log .error "leaf command table is full"
    throw fault

/-- Adds a command to the hub's table. -/
def registerCommand (command : Command) : Attempt Unit := do
  let after ← insertCommand (← get).commands command
  modify fun hub => { hub with commands := after }

def findCommand (hub : Hub) (name : String) : Option Command :=
  hub.commands.find? name

end LeafHub.Hub
