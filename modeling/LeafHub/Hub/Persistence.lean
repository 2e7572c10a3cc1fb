import LeafHub.Hub.Catalogue

namespace LeafHub.Hub

/-- The namespace of the settings. -/
def settingsNamespace (hub : Hub) : String :=
  hub.config.settingsNamespace.text

/-- The namespace and the name of a setting, for display. -/
def storageKey (hub : Hub) (name : String) : String :=
  hub.settingsNamespace ++ "/" ++ name

/-- Takes over one stored value. A key with a slash that names no setting is somebody else's and is passed over. -/
def handleSet (key : String) (raw : Bytes) : Attempt Unit := do
  log .info s!"name={key} len={raw.length}"
  let hub ← get
  match hub.findSetting key with
  | some id =>
    if (hub.cell id).kind = .event then
      log .error s!"Unhandled setting type {key}:event"
      throw .invalidValue
    try storeRaw id raw
    catch fault =>
      log .error s!"Incorrect value {key}:{raw.length} ({fault.message})"
      throw fault
  | none => if '/' ∈ key.toList then return () else throw .notFound

/-- Says that a pass over the entries is complete. -/
def commitSettings : Act Unit :=
  log .info "Application settings load completed."

/-- The names and raw values of the settings that can be kept, in order of registration. -/
def keptSettings (hub : Hub) : List (String × Bytes) :=
  (hub.settingList.filter fun id => (hub.cell id).kind ≠ .event).map fun id =>
    ((hub.cell id).name, (hub.value id).raw)

/-- Offers the settings that can be kept, one after the other. Returns how many offers were taken, and the last
fault if there was one. -/
def offerSettings (offer : String → Bytes → Act (Except Fault Unit)) :
    List CellId → Nat → Except Fault Unit → Act (Nat × Except Fault Unit)
  | [], taken, last => return (taken, last)
  | id :: rest, taken, last => do
    let hub ← get
    let name := (hub.cell id).name
    if (hub.cell id).kind = .event then
      log .warn s!"Unhandled type for setting {name}"
      offerSettings offer rest taken last
    else match ← offer name (hub.value id).raw with
      | .ok () => offerSettings offer rest (taken + 1) last
      | .error fault =>
        log .error s!"Setting export failed for {hub.storageKey name}: {fault.message}"
        offerSettings offer rest taken (.error fault)

/-- Offers every setting that can be kept. -/
def exportSettings (offer : String → Bytes → Act (Except Fault Unit)) : Act (Nat × Except Fault Unit) := do
  let hub ← get
  log .info s!"export keys under {hub.settingsNamespace} handler"
  offerSettings offer hub.settingList 0 (.ok ())

/-- Writes a key of a store. -/
def writeKey (store ns key : String) (value : Bytes) : Act (Except StorageFault Unit) := do
  let medium := (← get).medium store
  let (answer, after) := medium.write ns key value
  setMedium store after
  if (medium.plan.write medium.writes key).isNone && Store.validAddress ns key && medium.store.isTaken ns key then
    log .warn s!"NvsAdapter: slot {Slot.nameOf key} for {ns}/{key} is taken"
  return answer

/-- Writes the current value of a setting. -/
def persist (id : CellId) (store : String) : Attempt Unit := do
  let hub ← get
  if (hub.cell id).kind = .event then throw .typeMismatch
  match ← writeKey store hub.settingsNamespace (hub.cell id).name (hub.value id).raw with
  | .ok () => return ()
  | .error fault => throw (.storage fault)

/-- Writes every setting that can be kept and returns how many were written. -/
def saveAll (store : String) : Attempt Nat := do
  let ns := (← get).settingsNamespace
  let (written, last) ← exportSettings fun name raw => do
    match ← writeKey store ns name raw with
    | .ok () => return .ok ()
    | .error fault => return .error (.storage fault)
  log .info s!"saved {written} settings"
  match last with
  | .ok () => return written
  | .error fault => throw fault

/-- What a pass over the entries did. -/
structure LoadReport where
  loaded : Nat
  skipped : Nat
  deriving DecidableEq, Repr, Inhabited

/-- Takes over entries one after the other. -/
def loadEntries : List Entry → LoadReport → Act LoadReport
  | [], report => return report
  | entry :: rest, report => do
    match ← (handleSet entry.key entry.value).run with
    | .ok () => loadEntries rest { report with loaded := report.loaded + 1 }
    | .error fault =>
      let key := (← get).storageKey entry.key
      if fault = .notFound then log .warn s!"Unhandled setting {key}"
      else log .warn s!"Skipping setting {key}: {fault.message}"
      loadEntries rest { report with skipped := report.skipped + 1 }

/-- Takes over every stored entry. This fails only if the store cannot list them. -/
def loadSettings (store : String) : Attempt LoadReport := do
  log .info "load settings"
  let hub ← get
  match (hub.medium store).entries hub.settingsNamespace with
  | .error fault => throw (.storage fault)
  | .ok entries =>
    let report ← loadEntries entries ⟨0, 0⟩
    commitSettings
    log .info "Settings ready:"
    showCells "   " (← get).settingList
    return report

/-- Stores what an operator typed and writes it at once. If the write fails the new value stays. -/
def setAndPersist (id : CellId) (text store : String) : Attempt Unit := do
  storeText id text
  try persist id store
  catch fault =>
    let hub ← get
    log .error s!"Setting save failed for {hub.storageKey (hub.cell id).name}: {fault.message}"
    throw fault

/-- The stored entries. -/
def storedEntries (hub : Hub) (store : String) : Except Fault (List Entry) :=
  match (hub.medium store).entries hub.settingsNamespace with
  | .ok entries => .ok entries
  | .error fault => .error (.storage fault)

end LeafHub.Hub
