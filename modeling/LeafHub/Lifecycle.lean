import LeafHub.Routine

namespace LeafHub

namespace Hub

/-- Lists a leaf and takes its flags down before its class is called. -/
def beginInit (id : LeafId) : Act Unit := do
  let leaf := (← get).leaf id
  log .debug s!"sys_init {leaf.name}"
  log .info s!"NOTICE >INIT {leaf.leafClass.name}/{leaf.name}"
  registerLeaf id
  setLeaf id { leaf with ready := false, running := false }

/-- Draws the line under an init. -/
def endInit (id : LeafId) (outcome : Except Fault Unit) : Act Unit := do
  let leaf := (← get).leaf id
  match outcome with
  | .ok () =>
    log .info s!"NOTICE <READY {leaf.name}"
    setLeaf id { leaf with ready := true }
  | .error fault => log .warn s!"INIT RESULT {leaf.name} rc={fault.errno} ({fault.message})"

/-- Says whether a leaf may be started. -/
def beginStart (id : LeafId) : Act Bool := do
  let leaf := (← get).leaf id
  log .debug s!"sys_start {leaf.name}"
  if leaf.ready then log .info s!"NOTICE >START {leaf.leafClass.name}/{leaf.name}"
  return leaf.ready

/-- Draws the line under a start. -/
def endStart (id : LeafId) (outcome : Except Fault Unit) : Act Unit := do
  let leaf := (← get).leaf id
  match outcome with
  | .ok () =>
    setLeaf id { leaf with running := true }
    log .info s!"NOTICE <STARTED {leaf.name}"
  | .error fault => log .warn s!"START RESULT {leaf.name} rc={fault.errno} ({fault.message})"

/-- Draws the line under a stop. A stop that failed leaves the leaf running. -/
def endStop (id : LeafId) (outcome : Except Fault Unit) : Act Unit := do
  let leaf := (← get).leaf id
  match outcome with
  | .ok () =>
    setLeaf id { leaf with running := false }
    log .info s!"NOTICE <STOPPED {leaf.name}"
  | .error _ => pure ()

end Hub

namespace Routine

variable {σ : Type}

/-- Calls the class of a leaf. -/
def callClass (phase : Phase) (id : LeafId) : Routine σ (Except Fault Unit) := do
  match ((← get).leaf id).leafClass.callbacks with
  | .inert => return .ok ()
  | .led => (Hub.ledPhase phase id).run
  | .keypad => (Hub.keypadPhase phase id).run
  | .settings => (Hub.settingsPhase phase id).run
  | .custom behaviour => ofCall (.phase behaviour phase id)

/-- Lists a leaf and inits it. -/
def initLeaf (id : LeafId) : Routine σ (Except Fault Unit) :=
  holding [id] do
    Hub.beginInit id
    let outcome ← callClass .init id
    Hub.endInit id outcome
    return outcome

/-- Starts a leaf that is ready. -/
def startLeaf (id : LeafId) : Routine σ (Except Fault Unit) :=
  holding [id] do
    if ← Hub.beginStart id then
      let outcome ← callClass .start id
      Hub.endStart id outcome
      return outcome
    else return .error .notReady

/-- Stops a leaf. -/
def stopLeaf (id : LeafId) : Routine σ (Except Fault Unit) :=
  holding [id] do
    let outcome ← callClass .stop id
    Hub.endStop id outcome
    return outcome

/-- Starts the listed leaf of a name. -/
def start (name : String) : Routine σ (Except Fault Unit) := do
  let hub ← get
  match hub.findLeaf name with
  | none => return .error .notFound
  | some id =>
    if (hub.leaf id).ready then startLeaf id
    else
      Hub.log .warn s!"{name} was never ready, not starting"
      return .error .notReady

/-- Stops the listed leaf of a name. -/
def stop (name : String) : Routine σ (Except Fault Unit) := do
  match (← get).findLeaf name with
  | none => return .error .notFound
  | some id => stopLeaf id

/-- Calls the classes of leaves one after the other, and lets go of each leaf after its call. The answer is the last
fault, if there was one. -/
def callEach (phase : Phase) : List LeafId → Except Fault Unit → Routine σ (Except Fault Unit)
  | [], last => return last
  | id :: rest, last => do
    match ← callClass phase id with
    | .ok () =>
      Hub.release id
      callEach phase rest last
    | .error fault =>
      Hub.log .warn s!"{phase.name} {((← get).leaf id).name} failed: {fault.message}"
      Hub.release id
      callEach phase rest (.error fault)

/-- Calls the classes of the leaves that are listed now, whatever the calls do to the list. -/
def announce (phase : Phase) : Routine σ (Except Fault Unit) := do
  let listed := (← get).leafList
  (listed.forM Hub.retain : Act Unit)
  callEach phase listed (.ok ())

/-- Announces sleep. -/
def preSleep : Routine σ (Except Fault Unit) :=
  announce .preSleep

/-- Announces wake-up. -/
def postSleep : Routine σ (Except Fault Unit) :=
  announce .postSleep

end Routine

end LeafHub
