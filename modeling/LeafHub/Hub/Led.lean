import LeafHub.Hub.Catalogue

namespace LeafHub.Hub

def ledDuty : Definition := ⟨"duty", .byte 50⟩

def ledOk : Definition := ⟨"ok", .bool false⟩

def ledOn : Definition := ⟨"on", .bool false⟩

def ledBlinks : Definition := ⟨"blinks", .int64 0⟩

/-- The LED state of a leaf. -/
def led? (hub : Hub) (id : LeafId) : Option LedState :=
  match (hub.leaf id).context with
  | some (.led state) => some state
  | _ => none

/-- The LED state of a leaf that is expected to have one. -/
def ledOf (id : LeafId) : Attempt LedState := do
  match (← get).led? id with
  | some state => return state
  | none => throw .deviceUnavailable

/-- The cells of an LED leaf after its first init. -/
def ledCellsOf (id : LeafId) : Attempt LedCells := do
  match (← ledOf id).cells with
  | some cells => return cells
  | none => throw .deviceUnavailable

/-- Whether the cells ask for light. -/
def ledWanted (hub : Hub) (state : LedState) : Bool :=
  state.cells.any fun cells =>
    (hub.bool? cells.on).getD false && 0 < ((hub.byte? cells.duty).getD 0).toNat

/-- Drives the pin of an LED leaf. If the pin refuses, the leaf keeps its state. -/
def driveLed (id : LeafId) (lit : Bool) : Attempt Unit := do
  let state ← ledOf id
  let (accepted, after) := ((← get).pin state.pin).drive lit
  setPin state.pin after
  note (.pin state.pin lit accepted)
  if accepted then setContext id (.led { state with lit })
  else
    log .error "LED pin write failed (Other)"
    throw .io

/-- Brings the pin of an LED leaf in line with its cells. -/
def applyLed (id : LeafId) : Attempt Unit := do
  let state ← ledOf id
  let lit := (← get).ledWanted state
  if lit = state.lit then return ()
  log .debug (if lit then "LED on" else "LED off")
  driveLed id lit
  if lit then discard (count (← ledCellsOf id).blinks 1)

/-- Makes and registers the cells of an LED leaf. -/
def installLed (id : LeafId) (state : LedState) : Attempt Unit := do
  let name := ((← get).leaf id).name
  let duty ← newDefinedFor name ledDuty
  let ok ← newDefinedFor name ledOk
  let on ← newDefinedFor name ledOn
  let blinks ← newDefinedFor name ledBlinks
  registerSettings [duty]
  registerVariables [ok, on, blinks]
  let change ← newItem ⟨"led_change", .ledChange id, ownQueue⟩
  subscribe on change
  subscribe duty change
  setContext id (.led { state with cells := some { ok, on, blinks, duty } })

/-- Drives the pin low and says so in the `ok` cell. -/
def configureLed (id : LeafId) : Attempt Unit := do
  driveLed id false
  store (← ledCellsOf id).ok (.bool true)
  log .info s!"LED {((← get).leaf id).name} ready"

/-- Inits an LED leaf. A second init keeps the cells of the first. -/
def initLed (id : LeafId) : Attempt Unit := do
  let state ← ledOf id
  if state.cells.isNone then installLed id state
  let name := ((← get).leaf id).name
  try configureLed id
  catch fault =>
    log .error s!"LED device '{name}' not configured"
    throw fault
  registerCommand ⟨name, "Control status led", .led id⟩

/-- What a class of LEDs does in each phase. -/
def ledPhase (phase : Phase) (id : LeafId) : Attempt Unit := do
  match phase with
  | .init => initLed id
  | .start => applyLed id
  | .stop => driveLed id false
  | .preSleep => driveLed id false
  | .postSleep => if ((← get).leaf id).running then applyLed id

/-- What the subscriber of an LED leaf does. -/
def ledChanged (id : LeafId) : Act Unit := do
  let hub ← get
  if hub.isAlive id && (hub.leaf id).running && (hub.led? id).isSome then
    match ← (applyLed id).run with
    | .ok () => pure ()
    | .error fault => log .error s!"{(hub.leaf id).name}: {fault.message}"

/-- The line about the state of an LED leaf. -/
def ledLine (id : LeafId) (cells : LedCells) : Attempt String := do
  let state ← ledOf id
  let hub ← get
  let duty := ((hub.byte? cells.duty).getD 0).toNat
  match hub.int64? cells.blinks with
  | some blinks =>
    return s!"{(hub.leaf id).name} lit={state.lit} duty={duty} blinks={(Value.int64 blinks).text}\n"
  | none => throw .typeMismatch

/-- Carries out what was asked of an LED leaf and returns the line about its state. -/
def runLedCommand (id : LeafId) (args : List String) : Attempt String := do
  let cells ← ledCellsOf id
  match args with
  | ["on"] => store cells.on (.bool true)
  | ["off"] => store cells.on (.bool false)
  | ["duty", text] => storeText cells.duty text
  | _ => pure ()
  ledLine id cells

/-- The command of an LED leaf. -/
def ledCommand (id : LeafId) (args : List String) : Act CommandResult := do
  if (← get).isAlive id then return .ofExcept (← (runLedCommand id args).run)
  else return .ofFault .deviceUnavailable

end LeafHub.Hub
