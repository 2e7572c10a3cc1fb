import LeafHub.Scenario.CellSteps

namespace LeafHub.Scenario.Play

/-- Entries as pairs. -/
def entryAnswers (entries : List Entry) : Answer :=
  .list (entries.map fun entry => .list [.text entry.key, .bytes entry.value])

/-- The fault plan with these faults. A fault of all writes goes before one of a single key. -/
def faultPlan (write read entries : Option StorageFault) (keys : List (String × StorageFault))
    (extra : List Entry) : FaultPlan where
  write := fun _ key => write.or (Directory.get? keys key)
  read
  entries
  extra

def onStore (id : String) : StoreRequest → Play Answer
  | .write ns key value => do return .ofStorage (fun _ => .ok) (← Hub.writeKey id ns key value)
  | .read ns key size => do
    let buffer := List.replicate size filler
    match ((← get).medium id).read ns key size with
    | .ok value => return bufferAnswer (.ofNat value.length) (value ++ buffer.drop value.length)
    | .error fault => return bufferAnswer (.storageFault fault) buffer
  | .delete ns key => do
    let (outcome, after) := ((← get).medium id).delete ns key
    Hub.setMedium id after
    return .ofStorage (fun _ => .ok) outcome
  | .contains ns key => do return .bool (((← get).medium id).store.contains ns key)
  | .entries ns => do return .ofStorage entryAnswers (((← get).medium id).entries ns)
  | .erase ns => do
    let (outcome, after) := ((← get).medium id).erase ns
    Hub.setMedium id after
    return .ofStorage (fun _ => .ok) outcome
  | .inspect => return .text "NvsAdapter \x7b .. \x7d"
  | .plan write read entries keys extra => do
    let medium := (← get).medium id
    Hub.setMedium id { medium with plan := faultPlan write read entries keys extra }
    return .ok

def reportAnswer (report : Hub.LoadReport) : Answer :=
  .record [("loaded", .ofNat report.loaded), ("skipped", .ofNat report.skipped)]

def onSettings : SettingsRequest → Play Answer
  | .add id name value => do
    let cell ← Hub.addSetting name value
    keepCell id cell
    return .text ((← get).describe cell)
  | .key name => do
    let hub ← get
    return .texts [hub.settingsNamespace, hub.storageKey name]
  | .handleSet key raw => do return .ofUnit (← (Hub.handleSet key raw).run)
  | .commit => do
    Hub.commitSettings
    return .ok
  | .offer refused => do
    let offered := (← get).keptSettings
    let (_, outcome) ← Hub.exportSettings fun name _ =>
      return match Directory.get? refused name with
        | some fault => .error fault
        | none => .ok ()
    return .record [("seen", .list (offered.map fun (name, raw) => .list [.text name, .bytes raw])),
      ("r", .ofUnit outcome)]
  | .load store => do return .ofExcept reportAnswer (← (Hub.loadSettings store).run)
  | .saveAll store => do return .ofExcept .ofNat (← (Hub.saveAll store).run)
  | .entries store => do return .ofExcept entryAnswers ((← get).storedEntries store)

def onTable (id : String) (request : TableRequest) : Play Answer := do
  let table := ((← bench).tables.get? id).getD .empty
  match request with
  | .insert name help =>
    match ← (Hub.insertCommand table ⟨name, help, .inert⟩).run with
    | .ok after =>
      update fun bench => { bench with tables := bench.tables.put id after }
      return .ok
    | .error fault => return .fault fault
  | .find name => return .ofOption (fun command => .texts [command.name, command.help]) (table.find? name)
  | .names =>
    return .record [("names", .texts table.names), ("len", .ofNat table.entries.length),
      ("empty", .bool table.entries.isEmpty)]

end LeafHub.Scenario.Play
