import LeafHub.Hub.Work

namespace LeafHub.Hub

/-- Makes a cell that is registered nowhere. -/
def newCell (name : String) (initial : Value) : Act CellId := do
  let bounded := Cell.boundedName name
  if bounded ≠ name then log .warn s!"name '{name}' truncated to '{bounded}'"
  let flags ← match initial with
    | .event bits => newFlags bits
    | _ => pure 0
  let hub ← get
  set { hub with
    cells := hub.cells.add
      { name := bounded, kind := initial.kind, payload := .ofValue flags initial, subscriber := none } }
  return hub.cells.size

/-- Makes the cell of a definition row. -/
def newDefined (row : Definition) : Act CellId :=
  newCell row.name row.start

/-- Makes the cell of a definition row for a leaf. -/
def newDefinedFor (leaf : String) (row : Definition) : Act CellId :=
  newCell (Cell.prefixedName leaf row.name) row.start

/-- Makes the cells of a definition table, row by row. -/
def newTable (table : List Definition) : Act (List CellId) :=
  table.mapM newDefined

/-- Makes the cells of a definition table for a leaf, row by row. -/
def newTableFor (leaf : String) (table : List Definition) : Act (List CellId) :=
  table.mapM (newDefinedFor leaf)

/-- Submits the subscriber of a cell. -/
def notify (id : CellId) : Act Unit := do
  match ((← get).cell id).subscriber with
  | some item => discard (submit item)
  | none => pure ()

/-- Stores a value of the cell's kind, and submits the subscriber, also when the new value is the old one. A value of
another kind changes nothing. -/
def store (id : CellId) (value : Value) : Attempt Unit := do
  let cell := (← get).cell id
  if value.kind ≠ cell.kind then
    log .warn s!"SET {cell.name}: {value.kind.name} value rejected by {cell.kind.name} variable"
    throw .typeMismatch
  match cell.payload, value with
  | .event flags, .event bits => setFlags flags bits
  | _, _ => setCell id { cell with payload := .ofValue 0 value }
  note (.stored id cell.name value)
  notify id

/-- Stores a value from its raw form. -/
def storeRaw (id : CellId) (raw : Bytes) : Attempt Unit := do
  match ((← get).cell id).kind.ofRaw raw with
  | .ok value => store id value
  | .error fault => throw fault

/-- Stores a value from what an operator typed. -/
def storeText (id : CellId) (text : String) : Attempt Unit := do
  match ((← get).cell id).kind.ofText text with
  | .ok value => store id value
  | .error fault => throw fault

/-- The value of a cell of that kind. -/
def valueOfKind (hub : Hub) (kind : Kind) (id : CellId) : Except Fault Value :=
  if (hub.value id).kind = kind then .ok (hub.value id) else .error .typeMismatch

def bool? (hub : Hub) (id : CellId) : Option Bool :=
  match hub.value id with
  | .bool b => some b
  | _ => none

def byte? (hub : Hub) (id : CellId) : Option UInt8 :=
  match hub.value id with
  | .byte n => some n
  | _ => none

def uint16? (hub : Hub) (id : CellId) : Option UInt16 :=
  match hub.value id with
  | .uint16 n => some n
  | _ => none

def int32? (hub : Hub) (id : CellId) : Option Int32 :=
  match hub.value id with
  | .int32 n => some n
  | _ => none

def int64? (hub : Hub) (id : CellId) : Option Int64 :=
  match hub.value id with
  | .int64 n => some n
  | _ => none

/-- Moves a counter and returns the new total. Totals wrap around. -/
def count (id : CellId) (delta : Int64) : Attempt Int64 := do
  let cell := (← get).cell id
  match cell.payload with
  | .int64 n =>
    setCell id { cell with payload := .int64 (n + delta) }
    note (.counted id cell.name (n + delta))
    notify id
    return n + delta
  | _ => throw .typeMismatch

/-- The event object of an event cell. -/
def flagsOf (id : CellId) : Attempt FlagsId := do
  match ((← get).cell id).payload.flags? with
  | some flags => return flags
  | none => throw .typeMismatch

/-- Posts bits to an event cell. -/
def post (id : CellId) (bits : UInt32) : Attempt Unit := do
  let flags ← flagsOf id
  let hub ← get
  setFlags flags (EventFlags.post (hub.flags.get flags) bits)
  note (.posted id (hub.cell id).name bits)
  notify id

/-- Waits for a bit of a mask, for at most `limit` milliseconds. -/
def waitFlags (flags : FlagsId) (mask : UInt32) (reset : Bool) (limit : Option Nat)
    (arrival : Option (Nat × UInt32)) : Act UInt32 := do
  let hub ← get
  let outcome := EventFlags.wait (hub.flags.get flags) mask reset hub.clock (limit.map (hub.clock + ·))
    (arrival.map fun (delay, bits) => (hub.clock + delay, bits))
  setFlags flags outcome.bits
  waitUntil outcome.time
  return outcome.matched

/-- Waits for a bit of an event cell. -/
def waitEvent (id : CellId) (mask : UInt32) (reset : Bool) (limit : Option Nat) : Attempt UInt32 := do
  let flags ← flagsOf id
  waitFlags flags mask reset limit none

/-- The bytes that reading the raw value into a buffer writes: for a string its text and the NUL. -/
def rawImage (hub : Hub) (id : CellId) : Bytes :=
  match (hub.cell id).payload with
  | .string stored => stored
  | _ => (hub.value id).raw

/-- Copies the raw value to the front of a buffer that has room for all of it. Returns its length, the NUL of a string
not counted, and the buffer as it is then. -/
def readRaw (id : CellId) (buffer : Bytes) : Act (Except Fault Nat × Bytes) := do
  let hub ← get
  let image := hub.rawImage id
  if buffer.length < image.length then return (.error .bufferTooSmall, buffer)
  let size := if (hub.cell id).payload.allocated?.isSome then image.length - 1 else image.length
  log .debug s!"GET {(hub.cell id).name} ({size} bytes)"
  return (.ok size, image ++ buffer.drop image.length)

/-- Attaches the subscriber of a cell that has none. -/
def subscribe (id : CellId) (item : ItemId) : Attempt Unit := do
  let cell := (← get).cell id
  if cell.subscriber.isSome then
    log .warn s!"{cell.name}: change subscriber already attached"
    throw .alreadyExists
  setCell id { cell with subscriber := some item }

/-- Detaches the subscriber of a cell and returns it. -/
def unsubscribe (id : CellId) : Act (Option ItemId) := do
  let cell := (← get).cell id
  setCell id { cell with subscriber := none }
  return cell.subscriber

end LeafHub.Hub
