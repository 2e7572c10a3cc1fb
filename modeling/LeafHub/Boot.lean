import LeafHub.Lifecycle

namespace LeafHub

namespace BootBand

/-- The bands put every class before every init, and every init before every start. -/
def classes : Nat := 25

def leafInit : Nat := 50

def leafStart : Nat := 75

end BootBand

inductive BootAction where
  | registerClass (leafClass : LeafClass)
  | initLeaf (leaf : LeafId)
  | startLeaf (leaf : LeafId)
  | hook (behaviour : BehaviourId)
  deriving DecidableEq, Inhabited

structure BootEntry where
  priority : Nat
  label : String
  action : BootAction
  deriving DecidableEq, Inhabited

/-- What a boot did. -/
structure BootReport where
  /-- The entries that were run, failures included. -/
  ran : Nat
  /-- The label and the fault of every entry that failed, in the order of the run. -/
  failures : List (String × Fault)
  deriving DecidableEq, Inhabited

namespace BootReport

def empty : BootReport := ⟨0, []⟩

def isClean (report : BootReport) : Bool :=
  report.failures.isEmpty

def fail (report : BootReport) (label : String) (fault : Fault) : BootReport :=
  { report with failures := report.failures ++ [(label, fault)] }

end BootReport

/-- The entries in the order of their definition. -/
structure BootTable where
  entries : List BootEntry
  deriving Inhabited

namespace BootTable

def empty : BootTable := ⟨[]⟩

def add (table : BootTable) (entry : BootEntry) : BootTable :=
  ⟨table.entries ++ [entry]⟩

def defineClass (table : BootTable) (leafClass : LeafClass) : BootTable :=
  table.add ⟨BootBand.classes, "class " ++ leafClass.name, .registerClass leafClass⟩

/-- Defines the init and the start of a leaf. -/
def defineLeaf (table : BootTable) (id : LeafId) (name : String) : BootTable :=
  (table.add ⟨BootBand.leafInit, "init " ++ name, .initLeaf id⟩).add
    ⟨BootBand.leafStart, "start " ++ name, .startLeaf id⟩

def defineHook (table : BootTable) (priority : Nat) (label : String) (behaviour : BehaviourId) : BootTable :=
  table.add ⟨priority, label, .hook behaviour⟩

/-- The entries in the order of their run: by priority, and those of one priority as they were defined. -/
def schedule (table : BootTable) : List BootEntry :=
  table.entries.mergeSort fun first second => first.priority ≤ second.priority

end BootTable

namespace BootAction

/-- The leaf that an action holds on to. -/
def leaf? : BootAction → Option LeafId
  | .initLeaf id | .startLeaf id => some id
  | .registerClass _ | .hook _ => none

end BootAction

namespace Routine

variable {σ : Type}

/-- Carries out the action of an entry. The start of a leaf that is not ready is skipped, which counts as a
failure. -/
def bootAction : BootAction → Routine σ (Except Fault Unit)
  | .registerClass leafClass => do
    Hub.registerClass leafClass
    return .ok ()
  | .initLeaf id => initLeaf id
  | .startLeaf id => do
    let leaf := (← get).leaf id
    if leaf.ready then startLeaf id
    else
      Hub.log .warn s!"boot: skipping start of {leaf.name}, not ready"
      return .error .notReady
  | .hook behaviour => ofCall (.hook behaviour)

/-- Runs entries one after the other. An entry lets go of its leaf when it is done; one that fails is reported, and
the boot carries on. -/
def bootEntries : List BootEntry → BootReport → Routine σ BootReport
  | [], report => return report
  | entry :: rest, report => do
    let outcome ← bootAction entry.action
    (entry.action.leaf?.forM Hub.release : Act Unit)
    let counted := { report with ran := report.ran + 1 }
    match outcome with
    | .ok () => bootEntries rest counted
    | .error fault =>
      Hub.log .warn s!"boot: {entry.label} (prio {entry.priority}) failed: {fault.message}"
      bootEntries rest (counted.fail entry.label fault)

/-- Initialises the hub, if nobody has done so yet. -/
def bootInitialise : Act BootReport := do
  if (← get).initialised then return .empty
  match ← Hub.initialise.run with
  | .ok () => return .empty
  | .error fault => return BootReport.empty.fail "initialise" fault

/-- Runs a boot table. -/
def boot (table : BootTable) : Routine σ BootReport := do
  (table.entries.forM fun entry => entry.action.leaf?.forM Hub.retain : Act Unit)
  let report ← bootInitialise
  let count := table.entries.length
  Hub.log .info s!"boot: {count} entries"
  let report ← bootEntries table.schedule report
  Hub.log .info s!"boot: done, {report.failures.length} failures"
  return report

end Routine

end LeafHub
