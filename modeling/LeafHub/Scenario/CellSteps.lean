import LeafHub.Hub.Characteristic
import LeafHub.Scenario.Bench

namespace LeafHub.Scenario.Play

/-- The byte that fills buffers before something is read into them. -/
def filler : UInt8 := 0xAA

/-- The answer to a read into a buffer. -/
def bufferAnswer (outcome : Answer) (buffer : Bytes) : Answer :=
  .record [("r", outcome), ("buf", .bytes buffer)]

/-- The display of a cell with the names of its parts. -/
def inspectCell (hub : Hub) (id : CellId) : String :=
  "Variable \x7b name: " ++ Text.quoted (hub.cell id).name ++ ", kind: " ++ (hub.cell id).kind.inspect ++
    ", value: " ++ (hub.value id).inspect ++ ", .. \x7d"

def cellInfo (hub : Hub) (id : CellId) : Answer :=
  let cell := hub.cell id
  .record [("name", .text cell.name), ("kind", .text cell.kind.name),
    ("alloc", .ofOption .ofNat cell.payload.allocated?), ("onchange", .bool cell.subscriber.isSome)]

/-- Reads the raw value of a cell into a buffer of that size. -/
def readRaw (id : CellId) (size : Nat) : Play Answer := do
  let buffer := List.replicate size filler
  let (outcome, after) ← Hub.readRaw id buffer
  return bufferAnswer (.ofExcept .ofNat outcome) after

def onCell (id : CellId) : CellRequest → Play Answer
  | .get => do return .value ((← get).value id)
  | .describe => do return .text ((← get).describe id)
  | .info => do return cellInfo (← get) id
  | .inspect => do return .text (inspectCell (← get) id)
  | .readRaw size => readRaw id size
  | .storeRaw raw => do return .ofUnit (← (Hub.storeRaw id raw).run)
  | .storeText text => do return .ofUnit (← (Hub.storeText id text).run)
  | .store value => do return .ofUnit (← (Hub.store id value).run)
  | .getKind kind => do return .ofExcept .payload ((← get).valueOfKind kind id)
  | .count delta => do
    return .ofExcept (fun total => .payload (.int64 total)) (← (Hub.count id delta).run)
  | .post bits => do return .ofUnit (← (Hub.post id bits).run)
  | .wait mask reset limit => do return .ofExcept .ofBits (← (Hub.waitEvent id mask reset limit).run)
  | .keepFlags name => do
    match ← (Hub.flagsOf id).run with
    | .ok flags =>
      update fun bench => { bench with flags := bench.flags.put name flags }
      return .ok
    | .error fault => return .fault fault
  | .subscribe work => do
    found "work" ((← bench).works.get? work) fun item => do
      return .ofUnit (← (Hub.subscribe id item).run)
  | .unsubscribe => do
    let item ← Hub.unsubscribe id
    let hub ← get
    return .ofOption (fun item => .text (hub.items.get item).label) item
  | .isSame other => do
    found "cell" (← cell? other) fun otherId => return .bool (id = otherId)
  | .readCharacteristic offset limit => do
    return .ofAtt .bytes (← (Hub.readCharacteristic id offset limit).run)
  | .writeCharacteristic data offset limit => do
    let longest := limit.getD (← get).config.stringWriteMax.toNat
    return .ofAtt .ofNat (← (Hub.writeCharacteristic id data offset longest).run)
  | .persist store => do return .ofUnit (← (Hub.persist id store).run)
  | .setAndPersist store text => do return .ofUnit (← (Hub.setAndPersist id text store).run)

/-- How long it takes until somebody else acts, in milliseconds. -/
def arrivalDelay : Nat := 5

/-- Changes the bits of an event object and answers them. -/
def changeFlags (flags : FlagsId) (change : UInt32 → UInt32) : Play Answer := do
  let bits := change ((← get).flags.get flags)
  Hub.setFlags flags bits
  return .ofBits bits

def onEvent (id : String) : EventRequest → Play Answer
  | .make => do
    let flags ← Hub.newFlags 0
    update fun bench => { bench with flags := bench.flags.put id flags }
    return .ok
  | request => do
    let known ← bench
    found "ev" (known.flags.get? id) fun flags => do
      match request with
      | .make => return .ok
      | .post bits => changeFlags flags fun current => EventFlags.post current bits
      | .set bits => changeFlags flags fun _ => bits
      | .clear bits => changeFlags flags fun current => EventFlags.clear current bits
      | .keepAlso other =>
        update fun bench => { bench with flags := bench.flags.put other flags }
        return .ofBits ((← get).flags.get flags)
      | .isSame other =>
        found "ev" (known.flags.get? other) fun otherFlags => return .bool (flags = otherFlags)
      | .wait mask reset limit arrival =>
        let matched ← Hub.waitFlags flags mask reset limit (arrival.map fun bits => (arrivalDelay, bits))
        return .list [.ofBits matched, .ofBits ((← get).flags.get flags)]

/-- Appends numbers to a shared list. -/
def appendShared (id : String) (list : SharedList) (more : List Nat) : Play Unit :=
  update fun bench =>
    { bench with lists := bench.lists.put id { list with items := list.items ++ more } }

def onSharedList (id : String) : SharedListRequest → Play Answer
  | .make label => do
    update fun bench => { bench with lists := bench.lists.put id ⟨label, []⟩ }
    return .ok
  | request => do
    found "tm" ((← bench).lists.get? id) fun list => do
      match request with
      | .make _ => return .ok
      | .label => return .text list.label
      | .get => return .list (list.items.map .ofNat)
      | .contend time =>
        Hub.waitUntil ((← get).clock + time)
        return .nothing
      | .push n =>
        appendShared id list [n]
        return .ok
      | .pushBoth n later =>
        appendShared id list [n, later]
        Hub.waitUntil ((← get).clock + arrivalDelay)
        return .bool true
      | .abandon n =>
        appendShared id list [n]
        return .bool true

end LeafHub.Scenario.Play
