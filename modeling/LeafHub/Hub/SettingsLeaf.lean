import LeafHub.Hub.Persistence

namespace LeafHub.Hub

/-- Descriptions, a line each. -/
def descriptions (hub : Hub) (ids : List CellId) : String :=
  String.join (ids.map fun id => hub.describe id ++ "\n")

/-- The line of a stored entry in listings. -/
def entryLine (hub : Hub) (entry : Entry) : String :=
  s!"    {hub.storageKey entry.key} len={entry.value.length} " ++
    String.join (entry.value.map fun b => Text.hex [b] ++ " ") ++ "\n"

/-- The answer to a failed request about the whole store. -/
def storeFailure (request : String) (fault : Fault) : CommandResult :=
  ⟨fault.errno, s!"{request} failed: {fault.message}\n"⟩

/-- Stores and writes what an operator typed for a setting. -/
def setSetting (store name : String) (words : List String) : Act CommandResult := do
  match (← get).findSetting name with
  | none => return ⟨Fault.notFound.errno, s!"No setting named '{name}'\n"⟩
  | some id =>
    match ← (setAndPersist id (" ".intercalate words) store).run with
    | .ok () => return .ofText s!"updated: {(← get).describe id}\n"
    | .error fault =>
      return ⟨Fault.invalidValue.errno, s!"Setting update failed for '{name}': error {fault.errno}\n"⟩

/-- The `setting` command. -/
def settingCommand (store : String) (args : List String) : Act CommandResult := do
  match args with
  | [] | ["load"] =>
    match ← (loadSettings store).run with
    | .ok report => return .ofText s!"loaded {report.loaded}, skipped {report.skipped}\n"
    | .error fault => return storeFailure "load" fault
  | ["show"] =>
    let hub ← get
    return .ofText (hub.descriptions hub.settingList)
  | ["list"] =>
    let hub ← get
    match hub.storedEntries store with
    | .ok entries => return .ofText (String.join (entries.map hub.entryLine))
    | .error fault => return storeFailure "list" fault
  | ["save"] =>
    match ← (saveAll store).run with
    | .ok written => return .ofText s!"saved {written}\n"
    | .error fault => return storeFailure "save" fault
  | ["get", name] =>
    let hub ← get
    match hub.findSetting name with
    | some id => return .ofText (hub.describe id ++ "\n")
    | none => return ⟨Fault.notFound.errno, s!"No setting named '{name}'\n"⟩
  | "set" :: name :: word :: words => setSetting store name (word :: words)
  | _ => return .ofText "setting <show|list|load|save|get|set>\n"

/-- The store of a settings leaf. -/
def storeOf? (hub : Hub) (id : LeafId) : Option String :=
  match (hub.leaf id).context with
  | some (.settings store) => some store
  | _ => none

/-- Inits a settings leaf. -/
def initSettingsLeaf (id : LeafId) : Attempt Unit := do
  let hub ← get
  if (hub.storeOf? id).isNone then
    log .error s!"settings leaf {(hub.leaf id).name} has no store"
    throw .deviceUnavailable
  registerCommand ⟨"setting", "Persistent settings", .settings id⟩

/-- Starts a settings leaf. -/
def startSettingsLeaf (id : LeafId) : Attempt Unit := do
  let hub ← get
  match hub.storeOf? id with
  | none => throw .deviceUnavailable
  | some store =>
    let report ← loadSettings store
    log .info s!"{(hub.leaf id).name}: loaded {report.loaded} settings, skipped {report.skipped}"

/-- What a class of settings leaves does in each phase. -/
def settingsPhase (phase : Phase) (id : LeafId) : Attempt Unit := do
  match phase with
  | .init => initSettingsLeaf id
  | .start => startSettingsLeaf id
  | .stop | .preSleep | .postSleep => pure ()

/-- The command of a settings leaf. -/
def settingsLeafCommand (id : LeafId) (args : List String) : Act CommandResult := do
  let hub ← get
  match hub.storeOf? id with
  | some store => if hub.isAlive id then settingCommand store args else return .ofFault .deviceUnavailable
  | none => return .ofFault .deviceUnavailable

end LeafHub.Hub
