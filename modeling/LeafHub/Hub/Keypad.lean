import LeafHub.Hub.Catalogue

namespace LeafHub.Hub

def keypadAddr : Definition := ⟨"addr", .uint16 0x20⟩

def keypadInterval : Definition := ⟨"interval", .int32 50⟩

def keypadOk : Definition := ⟨"ok", .bool false⟩

def keypadPins : Definition := ⟨"pins", .byte 0xFF⟩

def keypadEvent : Definition := ⟨"event", .event 0⟩

/-- The event of a key that goes down, beside the bit of the key. -/
def pressBit : UInt32 := 0x08000000

/-- The event of a key that comes up, beside the bit of the key. -/
def releaseBit : UInt32 := 0x04000000

/-- The keypad state of a leaf. -/
def keypad? (hub : Hub) (id : LeafId) : Option KeypadState :=
  match (hub.leaf id).context with
  | some (.keypad state) => some state
  | _ => none

/-- The keypad state of a leaf that is expected to have one. -/
def keypadOf (id : LeafId) : Attempt KeypadState := do
  let hub ← get
  match hub.keypad? id with
  | some state => return state
  | none =>
    log .error s!"Did not find leaf context for {(hub.leaf id).name}"
    throw .deviceUnavailable

/-- The cells of a keypad leaf after its first init. -/
def keypadCellsOf (id : LeafId) : Attempt KeypadCells := do
  match (← keypadOf id).cells with
  | some cells => return cells
  | none => throw .deviceUnavailable

/-- The address of the expander, which has seven bits. -/
def keypadAddress (cells : KeypadCells) : Attempt UInt8 := do
  let raw := (((← get).uint16? cells.addr).getD 0x20).toNat
  if raw ≤ 0x7F then return UInt8.ofNat raw
  log .error s!"Keypad address 0x{Text.hexPadded 1 raw} is not a 7-bit address"
  throw .invalidValue

/-- The time between two scans in milliseconds, at least one. -/
def keypadPeriod (hub : Hub) (cells : KeypadCells) : Nat :=
  max 1 ((hub.int32? cells.interval).getD 50).toInt.toNat

/-- Configures the expander's pins as inputs. -/
def writeKeypad (name : String) (address : UInt8) : Attempt Unit := do
  let (answer, after) := ((← get).bus name).write
  setBus name after
  match answer with
  | .ok () => note (.bus name address (.write [0xFF]))
  | .error fault =>
    note (.bus name address (.failedWrite [0xFF]))
    log .error s!"Failed to configure PCF8574 pins for input ({fault.message})"
    throw .deviceUnavailable

/-- Reads the expander's pins. -/
def readKeypad (name : String) (address : UInt8) : Attempt UInt8 := do
  let (answer, after) := ((← get).bus name).readByte
  setBus name after
  match answer with
  | .ok pins =>
    note (.bus name address (.read pins))
    return pins
  | .error fault =>
    note (.bus name address .failedRead)
    log .error s!"i2c read error {fault.message}"
    throw .io

/-- Stores the event of one key, if its pin changed. -/
def reportKey (event : CellId) (before now : UInt8) (key : Nat) : Attempt Unit := do
  let mask := (1 : UInt8) <<< UInt8.ofNat key
  if before &&& mask = now &&& mask then return ()
  if now &&& mask = 0 then
    log .info s!"Button {key} press"
    store event (.event (pressBit ||| mask.toUInt32))
  else
    log .debug s!"Button {key} release"
    store event (.event (releaseBit ||| mask.toUInt32))

/-- Reads the keys once and stores what changed: the pins, and one event for every pin that changed. A key that is down
pulls its pin low. -/
def scanKeypad (id : LeafId) : Attempt Unit := do
  let state ← keypadOf id
  let cells ← keypadCellsOf id
  let address ← keypadAddress cells
  let now ← readKeypad state.bus address
  match (← get).byte? cells.pins with
  | none => throw .typeMismatch
  | some before =>
    if now = before then return ()
    log .debug s!"Keypad change {Text.hex [before]} => {Text.hex [now]}"
    store cells.pins (.byte now)
    (List.range 8).forM (reportKey cells.event before now)

/-- Makes a keypad leaf scan again after its period, unless it has been stopped. -/
def scanAgain (id : LeafId) : Act Unit := do
  let hub ← get
  match hub.keypad? id with
  | some ⟨_, some cells, true⟩ => discard (schedule cells.scan (hub.keypadPeriod cells))
  | _ => pure ()

/-- What the work item of a keypad leaf does. -/
def tickKeypad (id : LeafId) : Act Unit := do
  if !(← get).isAlive id then
    log .error "kp not found"
    return ()
  if ((← get).keypad? id).isNone then return ()
  match ← (scanKeypad id).run with
  | .ok () => pure ()
  | .error fault => log .debug s!"scan failed: {fault.message}"
  scanAgain id

/-- Makes a keypad leaf scan, the first time at once. -/
def startScan (id : LeafId) : Attempt Unit := do
  let state ← keypadOf id
  setContext id (.keypad { state with scanning := true })
  match state.cells with
  | some cells => discard (reschedule cells.scan 0)
  | none => pure ()

/-- Makes a keypad leaf stop scanning. -/
def stopScan (id : LeafId) : Attempt Unit := do
  let state ← keypadOf id
  setContext id (.keypad { state with scanning := false })
  match state.cells with
  | some cells => discard (cancel cells.scan)
  | none => pure ()

/-- Makes and registers the cells of a keypad leaf. -/
def installKeypad (id : LeafId) (state : KeypadState) : Act Unit := do
  let name := ((← get).leaf id).name
  let addr ← newDefinedFor name keypadAddr
  let interval ← newDefinedFor name keypadInterval
  let ok ← newDefinedFor name keypadOk
  let pins ← newDefinedFor name keypadPins
  let event ← newDefinedFor name keypadEvent
  registerSettings [addr, interval]
  registerVariables [ok, pins, event]
  let scan ← newItem ⟨"kp_scan", .keypadScan id, ownQueue⟩
  setContext id (.keypad { state with cells := some { ok, pins, event, addr, interval, scan } })

/-- Inits a keypad leaf. A second init keeps the cells of the first. -/
def initKeypad (id : LeafId) : Attempt Unit := do
  let name := ((← get).leaf id).name
  log .info s!"keypad init {name}"
  let state ← keypadOf id
  if state.cells.isNone then installKeypad id state
  let cells ← keypadCellsOf id
  let address ← keypadAddress cells
  writeKeypad state.bus address
  store cells.ok (.bool true)
  log .info s!"Keypad {name} at 0x{Text.hex [address]}"
  registerCommand ⟨name, "Control keypad", .keypad id⟩

/-- What a class of keypads does in each phase. -/
def keypadPhase (phase : Phase) (id : LeafId) : Attempt Unit := do
  let name := ((← get).leaf id).name
  match phase with
  | .init => initKeypad id
  | .start =>
    log .info s!"keypad start {name}"
    startScan id
  | .stop =>
    log .info s!"keypad stop {name}"
    stopScan id
  | .preSleep | .postSleep => pure ()

/-- Carries out what was asked of a keypad leaf and returns what it prints. -/
def runKeypadCommand (id : LeafId) (args : List String) : Attempt String := do
  let _ ← keypadOf id
  let name := ((← get).leaf id).name
  match args with
  | ["scan"] =>
    log .info "Doing immediate scan"
    scanKeypad id
    return ""
  | ["stop"] =>
    stopScan id
    return ""
  | ["start"] =>
    startScan id
    return ""
  | "addr" :: rest =>
    let cells ← keypadCellsOf id
    match rest with
    | [text] => storeText cells.addr text
    | _ => pure ()
    return s!"{name} addr={(← keypadAddress cells).toNat}\n"
  | "interval" :: rest =>
    let cells ← keypadCellsOf id
    match rest with
    | [text] => storeText cells.interval text
    | _ => pure ()
    return s!"{name} interval={(← get).keypadPeriod cells}\n"
  | _ =>
    let cells ← keypadCellsOf id
    let address ← keypadAddress cells
    let hub ← get
    match hub.byte? cells.pins with
    | some pins =>
      return s!"{name} at {Text.hex [address]} interval={hub.keypadPeriod cells} pins={Text.hex [pins]}\n"
    | none => throw .typeMismatch

/-- The command of a keypad leaf. -/
def keypadCommand (id : LeafId) (args : List String) : Act CommandResult := do
  if (← get).isAlive id then return .ofExcept (← (runKeypadCommand id args).run)
  else return .ofFault .deviceUnavailable

end LeafHub.Hub
