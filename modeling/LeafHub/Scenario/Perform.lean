import LeafHub.Scenario.LeafSteps
import LeafHub.Scenario.WorkSteps

namespace LeafHub.Scenario

namespace Play

/-- Makes a class and keeps it. -/
def newClass (id name : String) (parent : Option String) : ClassBehaviour Step → Play Answer
  | .known callbacks => keep callbacks
  | .scripted init start stop preSleep postSleep => do
    let behaviour := (← bench).classScripts.size
    let phases : Phase → PhaseScript Step
      | .init => init
      | .start => start
      | .stop => stop
      | .preSleep => preSleep
      | .postSleep => postSleep
    update fun bench => { bench with classScripts := bench.classScripts.add ⟨phases⟩ }
    keep (.custom behaviour)
where
  /-- Keeps a class with these callbacks. -/
  keep (callbacks : Callbacks) : Play Answer := do
    let leafClass : LeafClass := ⟨name, parent, callbacks⟩
    update fun bench => { bench with classes := bench.classes.put id leafClass }
    return classAnswer leafClass

/-- Keeps cells under numbered names. -/
def keepCells (id : String) (cells : List CellId) : Play Unit :=
  cells.zipIdx.forM fun (cell, index) => keepCell (id ++ toString index) cell

/-- Makes the cells of a definition table, keeps them and answers their descriptions. -/
def newCells (id : String) (leaf : Option String) (table : List Definition) : Play (List Answer) := do
  let cells ← match leaf with
    | some name => Hub.newTableFor name table
    | none => Hub.newTable table
  keepCells id cells
  let hub ← get
  return cells.map fun cell => .text (hub.describe cell)

/-- Registers a command with a script. -/
def newCommand (name help : String) (script : CommandScript) : Play Answer := do
  let behaviour := (← bench).commandScripts.size
  update fun bench => { bench with commandScripts := bench.commandScripts.add script }
  return .ofUnit (← (Hub.registerCommand ⟨name, help, .custom behaviour⟩).run)

def commandAnswer (result : CommandResult) : Answer :=
  .record [("rc", .number result.code), ("out", .text result.output)]

/-- Carries out a step. -/
def perform : Step → Play Answer
  | .newCell id name value => do
    let cell ← Hub.newCell name value
    keepCell id cell
    return .text ((← get).describe cell)
  | .newCells id rows leaf => do return .list (← newCells id leaf rows)
  | .newClass id name parent behaviour => newClass id name parent behaviour
  | .newLeaf id className name context => do
    found "class" ((← bench).classes.get? className) fun leafClass => do
      let leaf ← newLeaf id name leafClass context
      return leafAnswer (← get) leaf
  | .newWork id label queue steps times => do
    let item ← newWork ⟨label, steps, times, none⟩ (← queueNamed queue)
    update fun bench => { bench with works := bench.works.put id item }
    return .ok
  | .newQueue id => do
    keepQueue id (← Hub.newQueue)
    return .ok
  | .dropQueue id => dropQueue id
  | .newCommand name help output echo code steps => newCommand name help ⟨output, echo, code, steps⟩
  | .planPin id faults => do
    Hub.setPin id { (← get).pin id with faults }
    return .ok
  | .planBus id reads faults => do
    Hub.setBus id ⟨reads, faults⟩
    return .ok
  | .cell ref request => do found "cell" (← cell? ref) fun cell => onCell cell request
  | .work id request => do found "work" ((← bench).works.get? id) fun item => onWork item request
  | .queue id request => do onQueue (← queueNamed id) request
  | .store id request => onStore id request
  | .settings request => onSettings request
  | .leaf ref request => do found "leaf" (← leaf? ref) fun leaf => onLeaf ref leaf request
  | .hub request => onHub request
  | .event id request => onEvent id request
  | .sharedList id request => onSharedList id request
  | .table id request => onTable id request
  | .shellLine line => do return commandAnswer (← Routine.executeLine line)
  | .shellWords args => do return commandAnswer (← Routine.execute args)
  | .settingCommand store args => do return commandAnswer (← Hub.settingCommand store args)
  | .boot lines => boot lines
  | .findLeafBootingTable className lines =>
    findLeafHeld className fun _ => do
      trace (← boot lines)
      return false

/-- Carries out the steps of a script and notes their answers. -/
def runScript (steps : Script) : Play Unit :=
  steps.forM fun (name, step) => do
    let answer ← perform step
    admitLate
    trace (.record [("do", .text name), ("r", answer)])

end Play

namespace PhaseScript

/-- The outcome of the next call, and the script after it. -/
def advance (script : PhaseScript Step) (leaf : String) : Except Fault Unit × PhaseScript Step :=
  let next := script.outcomes.head?.join
  let outcome : Except Fault Unit := match (Directory.get? script.faults leaf).or next with
    | some fault => .error fault
    | none => .ok ()
  (outcome, { script with outcomes := script.outcomes.tail })

end PhaseScript

namespace ClassScript

/-- The script of a class with another script for one phase. -/
def setPhase (script : ClassScript) (phase : Phase) (next : PhaseScript Step) : ClassScript :=
  ⟨fun other => if other = phase then next else script.phases other⟩

end ClassScript

open Play in
/-- The callbacks of a scenario. -/
def application : Application Bench where
  phase behaviour phase leaf := do
    let name := ((← get).leaf leaf).name
    let script := (← bench).classScripts.get behaviour
    let (outcome, next) := (script.phases phase).advance name
    update fun bench =>
      { bench with classScripts := bench.classScripts.set behaviour (script.setPhase phase next) }
    trace (.text (phase.name ++ " " ++ name))
    runScript (script.phases phase).steps
    return outcome
  hook behaviour := do
    let script := (← bench).hookScripts.get behaviour
    trace (.text ("hook " ++ script.label))
    runScript script.steps
    match script.fault with
    | some fault => return .error fault
    | none => return .ok ()
  work behaviour := do
    let script := (← bench).workScripts.get behaviour
    update fun bench =>
      { bench with workScripts := bench.workScripts.set behaviour { script with left := script.left - 1 } }
    trace (.text ("work " ++ script.label))
    if 0 < script.left then runScript script.steps
    (script.closes.forM Hub.shutdownQueue : Act Unit)
  command behaviour args := do
    let script := (← bench).commandScripts.get behaviour
    let echoed := if script.echo then "[" ++ "|".intercalate args ++ "]\n" else ""
    runScript script.steps
    return ⟨script.code, script.output ++ echoed⟩
  idle queue := idle queue

end LeafHub.Scenario
