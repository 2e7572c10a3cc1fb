import LeafHub.Scenario.StoreSteps

namespace LeafHub.Scenario.Play

def leafAnswer (hub : Hub) (id : LeafId) : Answer :=
  let leaf := hub.leaf id
  .record [("name", .text leaf.name), ("class", .text leaf.leafClass.name), ("ready", .bool leaf.ready),
    ("running", .bool leaf.running), ("status", .text leaf.statusLine)]

def classAnswer (leafClass : LeafClass) : Answer :=
  .record [("name", .text leafClass.name), ("parent", .ofOption .text leafClass.parent)]

/-- The display of a leaf with the names of its parts. -/
def inspectLeaf (leaf : Leaf) : String :=
  "Leaf \x7b name: " ++ Text.quoted leaf.name ++ ", class: " ++ Text.quoted leaf.leafClass.name ++ ", ready: " ++
    toString leaf.ready ++ ", running: " ++ toString leaf.running ++ ", .. \x7d"

/-- The display of a class with the names of its parts. -/
def inspectClass (leafClass : LeafClass) : String :=
  let parent := match leafClass.parent with
    | some name => "Some(" ++ Text.quoted name ++ ")"
    | none => "None"
  "LeafClass \x7b name: " ++ Text.quoted leafClass.name ++ ", parent: " ++ parent ++ ", .. \x7d"

/-- What a scenario calls a context when it sets one. -/
def contextName : Context → String
  | .led _ => "pin"
  | .keypad _ => "bus"
  | .settings _ => "store_ctx"
  | .number _ => "u8"
  | .text _ => "text"

/-- A context, if it is of that sort. -/
def contextAnswer : ContextSort → Option Context → Answer
  | .number, some (.number n) => .ofNat n.toNat
  | .text, some (.text s) => .text s
  | .led, some (.led state) => .bool state.lit
  | .keypad, some (.keypad _) => .text "keypad"
  | .settings, some (.settings _) => .text "settings"
  | _, _ => .nothing

/-- Lets go of the leaf that is kept under a name. -/
def dropLeaf : LeafRef → Play Unit
  | .listed _ => pure ()
  | .kept id => do
    let former := (← bench).leaves.get? id
    update fun bench => { bench with leaves := bench.leaves.remove id }
    (former.forM Hub.release : Act Unit)

/-- Carries on with the store of a settings leaf. -/
def withStore (id : LeafId) (next : String → Play Answer) : Play Answer := do
  match (← get).storeOf? id with
  | some store => next store
  | none => return .fault .deviceUnavailable

def onLeaf (ref : LeafRef) (id : LeafId) : LeafRequest → Play Answer
  | .info => do return leafAnswer (← get) id
  | .inspect => do
    let leaf := (← get).leaf id
    return .texts [inspectLeaf leaf, inspectClass leaf.leafClass]
  | .register => do
    Hub.registerLeaf id
    return .ok
  | .init => do return .ofUnit (← Routine.initLeaf id)
  | .start => do return .ofUnit (← Routine.startLeaf id)
  | .callClass phase => do return .ofUnit (← Routine.holding [id] (Routine.callClass phase id))
  | .drop => do
    dropLeaf ref
    return .ok
  | .setContext none => return .nothing
  | .setContext (some context) => do
    Hub.setContext id context
    return .text (contextName context)
  | .context sort => do return contextAnswer sort ((← get).leaf id).context
  | .applyLed => do
    if ((← get).led? id).isNone then return .nothing
    return .ofUnit (← (Hub.applyLed id).run)
  | .darkenLed => do
    if ((← get).led? id).isNone then return .nothing
    return .ofUnit (← (Hub.driveLed id false).run)
  | .scan => do
    if ((← get).keypad? id).isNone then return .nothing
    return .ofUnit (← (Hub.scanKeypad id).run)
  | .loadSettings => withStore id fun store => onSettings (.load store)
  | .saveSettings => withStore id fun store => onSettings (.saveAll store)
  | .storeEntries ns => do
    match (← get).storeOf? id with
    | some store => onStore store (.entries ns)
    | none => return .nothing

/-- Makes a leaf of a kept class and keeps it. -/
def newLeaf (id name : String) (leafClass : LeafClass) (context : Option Context) : Play LeafId := do
  let leaf ← Hub.newLeaf (.fresh leafClass name context)
  keepLeaf id leaf
  return leaf

/-- Fills a boot table; none if a line names a class that nobody made. -/
def bootTable : List (BootLine Step) → BootTable → Play (Option BootTable)
  | [], table => return some table
  | .defineClass id :: rest, table => do
    match (← bench).classes.get? id with
    | some leafClass => bootTable rest (table.defineClass leafClass)
    | none => return none
  | .defineLeaf id className name context :: rest, table => do
    match (← bench).classes.get? className with
    | some leafClass =>
      let leaf ← newLeaf id name leafClass context
      bootTable rest (table.defineLeaf leaf name)
    | none => return none
  | .hook priority label steps fault :: rest, table => do
    let behaviour := (← bench).hookScripts.size
    update fun bench => { bench with hookScripts := bench.hookScripts.add ⟨label, steps, fault⟩ }
    bootTable rest (table.defineHook priority label behaviour)

/-- Fills and runs a boot table. -/
def boot (lines : List (BootLine Step)) : Play Answer := do
  found "class" (← bootTable lines .empty) fun table => do
    let report ← Routine.boot table
    return .record [("len", .ofNat table.entries.length), ("empty", .bool table.entries.isEmpty),
      ("ran", .ofNat report.ran), ("clean", .bool report.isClean),
      ("failures", .list (report.failures.map fun (label, fault) => .list [.text label, .faultName fault]))]

/-- The first leaf at which a test succeeds. -/
def firstLeaf (test : LeafId → Play Bool) : List LeafId → Play (Option LeafId)
  | [] => return none
  | id :: rest => do
    if ← test id then return some id
    firstLeaf test rest

/-- Looks for a listed leaf of a class while the list of leaves is held. -/
def findLeafHeld (className : Option String) (test : LeafId → Play Bool) : Play Answer := do
  Hub.holdLeafList true
  let leaf ← firstLeaf test ((← get).leavesOf className)
  Hub.holdLeafList false
  let hub ← get
  return .ofOption (leafAnswer hub) leaf

/-- Whether a leaf has that ending of its name and those flags. -/
def matchesLeaf (ending : String) (ready running : Option Bool) (leaf : Leaf) : Bool :=
  ending.toList.isSuffixOf leaf.name.toList && ready.all (· = leaf.ready) && running.all (· = leaf.running)

/-- Boots from the shell and notes how that ended. -/
def bootFromShell : Play Bool := do
  let result ← Routine.execute ["boot"]
  trace (.text ("boot " ++ toString result.code ++ " " ++ String.ofList (Text.trim result.output.toList)))
  return false

/-- The display of a command with the names of its parts. -/
def inspectCommand (command : Command) : String :=
  "LeafCommand \x7b name: " ++ Text.quoted command.name ++ ", help: " ++ Text.quoted command.help ++ ", .. \x7d"

def identityAnswer (identity : Identity) : Answer :=
  .record [("hex", .text identity.hex), ("short", .text identity.short), ("name", .text identity.name)]

/-- The display of the hub with the names of its parts. -/
def inspectHub (hub : Hub) : String :=
  "Registry \x7b initialised: " ++ toString hub.initialised ++ ", variables: " ++ toString hub.variableList.length ++
    ", settings: " ++ toString hub.settingList.length ++ ", .. \x7d"

/-- Registers the cells that a step names; none if one of them does not exist. -/
def registerCells (catalogue : Catalogue) (refs : List CellRef) : Play Answer := do
  let cells ← refs.mapM cell?
  found "cell" (cells.mapM id) fun ids => do
    match catalogue with
    | .runtime => Hub.registerVariables ids
    | .persistent => Hub.registerSettings ids
    return .ofNat ids.length

def onHub : HubRequest → Play Answer
  | .list catalogue => do
    let hub ← get
    return .texts ((hub.listed catalogue).map hub.describe)
  | .register catalogue refs => registerCells catalogue refs
  | .listInfo catalogue => do
    let ids := (← get).listed catalogue
    return .record [("len", .ofNat ids.length), ("empty", .bool ids.isEmpty), ("label", .text catalogue.label)]
  | .log catalogue => do
    Hub.showCells "" ((← get).listed catalogue)
    return .ok
  | .initialise => do return .ofUnit (← Hub.initialise.run)
  | .isInitialised => do return .bool (← get).initialised
  | .identity => do return identityAnswer (← get).identity
  | .inspect => do return .text (inspectHub (← get))
  | .registerClass id => do
    found "class" ((← bench).classes.get? id) fun leafClass => do
      Hub.registerClass leafClass
      return .ok
  | .classes => do return .list ((← get).classes.map classAnswer)
  | .findClass name => do return .ofOption classAnswer ((← get).findClass name)
  | .leaves => do
    let hub ← get
    return .list (hub.leafList.map (leafAnswer hub))
  | .findLeaf name => do
    let hub ← get
    return .ofOption (leafAnswer hub) (hub.findLeaf name)
  | .findLeafBy className ending ready running => do
    let hub ← get
    let leaf := hub.findLeafBy className fun id => matchesLeaf ending ready running (hub.leaf id)
    return .ofOption (leafAnswer hub) leaf
  | .findLeafInitialising className =>
    findLeafHeld className fun _ => do return (← Hub.initialise.run).toBool = false
  | .findLeafBooting className => findLeafHeld className fun _ => bootFromShell
  | .state name => do
    let hub ← get
    return .list [.bool (hub.isLeafReady name), .bool (hub.isLeafRunning name)]
  | .start name => do return .ofUnit (← Routine.start name)
  | .stop name => do return .ofUnit (← Routine.stop name)
  | .preSleep => do return .ofUnit (← Routine.preSleep)
  | .postSleep => do return .ofUnit (← Routine.postSleep)
  | .commands => do return .texts (← get).commands.names
  | .findCommand name => do
    let render (command : Command) : Answer := .texts [command.name, command.help, inspectCommand command]
    return .ofOption render ((← get).findCommand name)

end LeafHub.Scenario.Play
