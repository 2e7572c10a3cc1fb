import LeafHub.Proofs.Hub.KeyActs
import LeafHub.Proofs.Hub.Loading
import LeafHub.Proofs.Lifecycle.Operations

namespace LeafHub

open Hub Passage

/-- A context without the flag of a scan. -/
def Context.still : Context → Context
  | .keypad state => .keypad { state with scanning := false }
  | context => context

/-- What a leaf is, whatever becomes of its flags. -/
def Leaf.role (leaf : Leaf) : String × LeafClass × Option Context :=
  (leaf.name, leaf.leafClass, leaf.context.map Context.still)

namespace Hub

variable {hub after : Hub} {id : LeafId} {cell? : Option CellId}

theorem keypad?_of_role {bus : String} {cells : Option KeypadCells} {scanning : Bool}
    (same : (after.leaf id).role = (hub.leaf id).role) (holds : hub.keypad? id = some ⟨bus, cells, scanning⟩) :
    ∃ scanning, after.keypad? id = some ⟨bus, cells, scanning⟩ := by
  have context := congrArg (fun role => role.2.2) same
  simp only [Leaf.role, keypad?_eq_some.mp holds, Option.map_some, Option.map_eq_some_iff] at context
  obtain ⟨other, held, same⟩ := context
  cases other with
  | keypad state =>
    cases same
    exact ⟨_, keypad?_eq_some.mpr held⟩
  | _ => cases same

theorem storeOf?_eq_some {store : String} :
    hub.storeOf? id = some store ↔ (hub.leaf id).context = some (.settings store) := by
  unfold storeOf?
  split
  · rename_i context
    rw [context, Option.some.injEq, Option.some.injEq, Context.settings.injEq]
  · rename_i other
    exact ⟨nofun, fun context => absurd context (other store)⟩

theorem storeOf?_of_role {store : String} (same : (after.leaf id).role = (hub.leaf id).role)
    (holds : hub.storeOf? id = some store) : after.storeOf? id = some store := by
  have context := congrArg (fun role => role.2.2) same
  simp only [Leaf.role, storeOf?_eq_some.mp holds, Option.map_some, Option.map_eq_some_iff] at context
  obtain ⟨other, held, same⟩ := context
  cases other with
  | settings other =>
    cases same
    exact storeOf?_eq_some.mpr held
  | _ => cases same

/-- What stores hold, what settings are called and what leaves are is the same, and so is the cell, if one is given. -/
structure Steady (cell? : Option CellId) (hub after : Hub) : Prop where
  role : ∀ id, (after.leaf id).role = (hub.leaf id).role
  size : after.cells.size = hub.cells.size
  label : ∀ id, (after.cell id).name = (hub.cell id).name
  cell : ∀ id ∈ cell?, after.cell id = hub.cell id
  settingList : after.settingList = hub.settingList
  media : after.media = hub.media
  config : after.config = hub.config

theorem passage_steady (cell? : Option CellId) : Passage (Steady cell?) where
  refl := fun _ => ⟨fun _ => rfl, rfl, fun _ => rfl, fun _ _ => rfl, rfl, rfl, rfl⟩
  trans := fun first second =>
    { role := fun id => (second.role id).trans (first.role id)
      size := second.size.trans first.size
      label := fun id => (second.label id).trans (first.label id)
      cell := fun id own => (second.cell id own).trans (first.cell id own)
      settingList := second.settingList.trans first.settingList
      media := second.media.trans first.media
      config := second.config.trans first.config }

theorem Steady.findSetting (steady : hub.Steady cell? after) (key : String) :
    after.findSetting key = hub.findSetting key := by
  simp only [Hub.findSetting, Hub.findCell, Hub.listed, steady.settingList, steady.label]

theorem Requeued.steady (requeued : hub.Requeued after) (cell? : Option CellId) : hub.Steady cell? after := by
  obtain ⟨queues, journal, rfl⟩ := requeued
  exact ⟨fun _ => rfl, rfl, fun _ => rfl, fun _ _ => rfl, rfl, rfl, rfl⟩

/-- Nothing was told about a bus. -/
def Silent (happening : Happening) : Prop :=
  ∀ name address transfer, happening ≠ .bus name address transfer

/-- Nothing has changed that the address of a keypad depends on, and no transfer was made. -/
structure Calm (hub after : Hub) : Prop where
  steady : ∀ cell?, hub.Steady cell? after
  silent : Adds Silent hub after

theorem passage_calm : Passage Calm where
  refl := fun hub => ⟨fun _ => (passage_steady _).refl hub, adds_of_same rfl⟩
  trans := fun first second =>
    ⟨fun cell? => (passage_steady _).trans (first.steady cell?) (second.steady cell?),
      (passage_adds _).trans first.silent second.silent⟩

theorem calm_of_requeued (requeued : hub.Requeued after) (silent : Adds Silent hub after) : Calm hub after :=
  ⟨requeued.steady, silent⟩

theorem silent_log (level : Level) (line : String) : Silent (.log level line) :=
  fun _ _ _ same => by cases same

theorem calm_log (level : Level) (line : String) : Act.Keeps Calm (log level line) :=
  fun hub => calm_of_requeued (requeued_log level line hub) (adds_log silent_log level line hub)

theorem calm_askQueue (item : ItemId) (ask : WorkQueue → Bool × WorkQueue) : Act.Keeps Calm (askQueue item ask) :=
  fun hub => calm_of_requeued (requeued_askQueue item ask hub) (adds_askQueue item ask hub)

theorem cataloguing_calm : Cataloguing Calm where
  toPassage := passage_calm
  logged := calm_log
  catalogued := fun _ _ _ _ _ _ =>
    ⟨fun _ => ⟨fun _ => rfl, rfl, fun _ => rfl, fun _ _ => rfl, rfl, rfl, rfl⟩, adds_of_same rfl⟩

theorem calm_setLeaf {leaf : Leaf} (same : leaf.role = (hub.leaf id).role) : Calm hub ((setLeaf id leaf).run hub).2 := by
  refine ⟨fun _ => ⟨fun other => ?_, rfl, fun _ => rfl, fun _ _ => rfl, rfl, rfl, rfl⟩, adds_of_same rfl⟩
  have set : ((setLeaf id leaf).run hub).2.leaf other = (hub.leaves.set id leaf).get other := rfl
  rw [set, Pool.get_set]
  split
  · rename_i here
    rw [same, here.1]
  · rfl

theorem calm_marked (hub : Hub) (id : LeafId) (ready running : Bool) :
    Calm hub { hub with leaves := hub.leaves.set id { hub.leaf id with ready, running } } :=
  calm_setLeaf rfl

theorem calm_retain (id : LeafId) : Act.Keeps Calm (retain id) :=
  fun _ => calm_setLeaf rfl

theorem calm_release (id : LeafId) : Act.Keeps Calm (release id) :=
  fun _ => calm_setLeaf rfl

theorem calm_beginInit (id : LeafId) : Act.Keeps Calm (beginInit id) :=
  cataloguing_calm.beginInit calm_marked (cataloguing_calm.registerLeaf id)

theorem calm_scanning {state : KeypadState} (holds : hub.keypad? id = some state) (scanning : Bool) :
    Calm hub ((setContext id (.keypad { state with scanning })).run hub).2 := by
  refine calm_setLeaf ?_
  simp only [Leaf.role, keypad?_eq_some.mp holds, Option.map_some, Context.still]

theorem calm_startScan (id : LeafId) : Attempt.Keeps Calm (startScan id) := by
  intro hub
  rw [startScan_eq]
  exact keeps_switchScan passage_calm calm_log (fun _ holds => calm_scanning holds true)
    fun _ _ _ _ => Passage.look (fun hub => calm_askQueue _ _ hub) _

theorem calm_initSettingsLeaf (id : LeafId) : Attempt.Keeps Calm (initSettingsLeaf id) := by
  unfold initSettingsLeaf
  refine passage_calm.tryBind passage_calm.tryGet fun hub => ?_
  have bound : Attempt.Keeps Calm (registerCommand ⟨"setting", "Persistent settings", .settings id⟩) :=
    cataloguing_calm.registerCommand _
  dsimp only
  split
  · exact passage_calm.tryBind (tryLift (calm_log _ _)) fun _ => passage_calm.tryFail _ _
  · exact bound

theorem calm_turned (hub : Hub) (queue : QueueId) : Calm hub (hub.turned queue) :=
  ⟨fun _ => ⟨fun _ => rfl, rfl, fun _ => rfl, fun _ _ => rfl, rfl, rfl, rfl⟩,
    adds_turned (fun _ _ _ _ _ same => by cases same) queue⟩

theorem calm_schedule (item : ItemId) (delay : Nat) : Act.Keeps Calm (schedule item delay) :=
  fun hub => calm_of_requeued (requeued_schedule item delay hub) (adds_schedule item delay hub)

theorem calm_scanAgain (id : LeafId) : Act.Keeps Calm (scanAgain id) :=
  fun hub => keeps_scanAgain passage_calm fun _ _ _ => calm_schedule _ _ hub

/-- A store leaves alone what it does not write. -/
theorem steady_store {cell : CellId} (apart : cell ∉ cell?) (value : Value) : Attempt.Keeps (Steady cell?) (store cell value) := by
  intro hub
  have passage := passage_steady cell?
  rw [run_store]
  split
  · exact (calm_log _ _ hub).steady cell?
  · have told := requeued_notify cell (hub.putNoted cell value (.stored cell (hub.cell cell).name value))
    have cells (other : CellId) : (hub.cells.set cell { hub.cell cell with payload := .ofValue 0 value }).get other =
        if other = cell ∧ cell < hub.cells.size then { hub.cell cell with payload := .ofValue 0 value } else hub.cell other :=
      Pool.get_set _ _ _ _
    refine passage.trans ?_ (told.steady cell?)
    unfold putNoted put
    split
    · exact ⟨fun _ => rfl, rfl, fun _ => rfl, fun _ _ => rfl, rfl, rfl, rfl⟩
    · refine ⟨fun _ => rfl, by simp, fun other => ?_, fun other own => ?_, rfl, rfl, rfl⟩
      · rw [Hub.cell, cells]
        split
        · rename_i here
          rw [here.1]
        · rfl
      · rw [Hub.cell, cells, if_neg]
        rintro ⟨rfl, _⟩
        exact apart own

end Hub

/-- How far the address has got. -/
inductive Stage where
  /-- The keypad has no cells yet. -/
  | bare
  /-- The keypad has the setting that every keypad starts with. -/
  | posted
  /-- The keypad has the stored setting. -/
  | loaded

/-- The stage that the start of a settings leaf leads to. -/
def Stage.ofLoad : Except Fault Unit → Stage
  | .ok () => .loaded
  | .error _ => .posted

/-- A keypad, and a settings leaf over a store that holds an address for it. -/
structure Station where
  pad : LeafId
  /-- The name of the keypad. -/
  name : String
  /-- The bus of the keypad. -/
  bus : String
  keeper : LeafId
  /-- The store of the settings leaf. -/
  store : String
  /-- The address that is stored. -/
  setting : UInt16

namespace Station

variable {station : Station} {hub after : Hub} {cell? : Option CellId} {setting : UInt16} {cells : KeypadCells} {stage : Stage}

/-- The name of the setting. -/
def key (station : Station) : String :=
  Cell.boundedName (Cell.prefixedName station.name keypadAddr.name)

/-- A transfer on the bus of the keypad to that address, or no transfer at all. -/
def GoesTo (station : Station) (setting : UInt16) (happening : Happening) : Prop :=
  ∀ name address transfer, happening = .bus name address transfer → name = station.bus ∧ address.toNat = setting.toNat

/-- The leaf is a keypad of its name. -/
structure Stands (station : Station) (hub : Hub) : Prop where
  name : (hub.leaf station.pad).name = station.name
  callbacks : (hub.leaf station.pad).leafClass.callbacks = .keypad

/-- The settings leaf is over the store, which holds the address. -/
structure Served (station : Station) (hub : Hub) : Prop where
  callbacks : (hub.leaf station.keeper).leafClass.callbacks = .settings
  store : hub.storeOf? station.keeper = some station.store
  sound : (hub.medium station.store).store.Sound
  plain : (hub.medium station.store).plan.extra = []
  stored : ∃ raw, (hub.medium station.store).store.get? hub.settingsNamespace station.key = some raw ∧
    Kind.uint16.ofRaw raw = .ok (.uint16 station.setting)

/-- The keypad has not been inited yet, and no setting has the name of its address. -/
structure Bare (station : Station) (hub : Hub) : Prop where
  holds : ∃ scanning, hub.keypad? station.pad = some ⟨station.bus, none, scanning⟩
  unnamed : ∀ cell ∈ hub.settingList, cell < hub.cells.size ∧ (hub.cell cell).name ≠ station.key

/-- The keypad has its cells, and the first setting of the name is the one of its address. -/
structure Posted (station : Station) (setting : UInt16) (cells : KeypadCells) (hub : Hub) : Prop where
  holds : ∃ scanning, hub.keypad? station.pad = some ⟨station.bus, some cells, scanning⟩
  found : hub.findSetting station.key = some cells.addr
  known : cells.addr < hub.cells.size
  kind : (hub.cell cells.addr).kind = .uint16
  payload : (hub.cell cells.addr).payload = .uint16 setting
  apart : cells.addr ∉ [cells.ok, cells.pins, cells.event]

/-- The address that the keypad has in a stage. -/
def address (station : Station) : Stage → UInt16
  | .bare | .posted => 0x20
  | .loaded => station.setting

def At (station : Station) : Stage → Hub → Prop
  | .bare, hub => station.Stands hub ∧ station.Served hub ∧ station.Bare hub
  | .posted, hub => station.Stands hub ∧ station.Served hub ∧ ∃ cells, station.Posted 0x20 cells hub
  | .loaded, hub => station.Stands hub ∧ ∃ cells, station.Posted station.setting cells hub

/-- What happens keeps the stage, and all transfers go to the address of the stage. -/
def Stays (station : Station) (stage : Stage) (hub after : Hub) : Prop :=
  station.At stage hub → Adds (station.GoesTo (station.address stage)) hub after ∧ station.At stage after

theorem passage_stays (station : Station) (stage : Stage) : Passage (station.Stays stage) :=
  (passage_adds _).under _

theorem goesTo_of_silent {happening : Happening} (silent : Silent happening) : station.GoesTo setting happening :=
  fun name address transfer same => absurd same (silent name address transfer)

section Steady

theorem Stands.steady (stands : station.Stands hub) (steady : hub.Steady cell? after) : station.Stands after where
  name := (congrArg Prod.fst (steady.role _)).trans stands.name
  callbacks := (congrArg (fun role => role.2.1.callbacks) (steady.role _)).trans stands.callbacks

theorem Served.steady (served : station.Served hub) (steady : hub.Steady cell? after) : station.Served after where
  callbacks := (congrArg (fun role => role.2.1.callbacks) (steady.role _)).trans served.callbacks
  store := storeOf?_of_role (steady.role _) served.store
  sound := by
    rw [medium, steady.media]
    exact served.sound
  plain := by
    rw [medium, steady.media]
    exact served.plain
  stored := by
    rw [medium, steady.media, settingsNamespace, steady.config]
    exact served.stored

theorem Bare.steady (bare : station.Bare hub) (steady : hub.Steady cell? after) : station.Bare after where
  holds := by
    obtain ⟨scanning, holds⟩ := bare.holds
    exact keypad?_of_role (steady.role _) holds
  unnamed := fun cell listed => by
    rw [steady.size, steady.label]
    exact bare.unnamed cell (steady.settingList ▸ listed)

theorem Posted.steady (posted : station.Posted setting cells hub) (steady : hub.Steady (some cells.addr) after) :
    station.Posted setting cells after where
  holds := by
    obtain ⟨scanning, holds⟩ := posted.holds
    exact keypad?_of_role (steady.role _) holds
  found := (steady.findSetting _).trans posted.found
  known := steady.size ▸ posted.known
  kind := (congrArg Cell.kind (steady.cell _ rfl)).trans posted.kind
  payload := (congrArg Cell.payload (steady.cell _ rfl)).trans posted.payload
  apart := posted.apart

/-- A stage is kept while the cell of the address is. -/
theorem At.steady (here : station.At stage hub) (steady : hub.Steady none after)
    (kept : ∀ setting cells, station.Posted setting cells hub → hub.Steady (some cells.addr) after) : station.At stage after := by
  cases stage with
  | bare =>
    obtain ⟨stands, served, bare⟩ := here
    exact ⟨stands.steady steady, served.steady steady, bare.steady steady⟩
  | posted =>
    obtain ⟨stands, served, cells, posted⟩ := here
    exact ⟨stands.steady steady, served.steady steady, cells, posted.steady (kept _ cells posted)⟩
  | loaded =>
    obtain ⟨stands, cells, posted⟩ := here
    exact ⟨stands.steady steady, cells, posted.steady (kept _ cells posted)⟩

theorem At.calm (here : station.At stage hub) (calm : Calm hub after) : station.At stage after :=
  here.steady (calm.steady none) fun _ _ _ => calm.steady _

theorem adds_of_calm (calm : Calm hub after) (setting : UInt16) : Adds (station.GoesTo setting) hub after :=
  calm.silent.mono fun _ => goesTo_of_silent

theorem stays_of_calm (calm : Calm hub after) : station.Stays stage hub after :=
  fun here => ⟨adds_of_calm calm _, here.calm calm⟩

theorem logging_stays (station : Station) (stage : Stage) : Logging (station.Stays stage) where
  toPassage := passage_stays station stage
  logged := fun level line hub => stays_of_calm (calm_log level line hub)

end Steady

section Scan

/-- The setting is what the keypad takes for its address. -/
theorem Posted.uint16? (posted : station.Posted setting cells hub) : hub.uint16? cells.addr = some setting := by
  rw [Hub.uint16?, Hub.value, posted.payload]
  rfl

theorem Posted.goesTo (posted : station.Posted setting cells hub) {happening : Happening}
    (addressed : hub.Addressed station.bus cells happening) : station.GoesTo setting happening := by
  intro name address transfer same
  obtain ⟨own, target, _⟩ := addressed name address transfer same
  rw [posted.uint16?] at target
  exact ⟨own, target⟩

/-- What a scan does: it makes a transfer to the address of the setting and leaves the setting alone. -/
def Scanned (station : Station) (setting : UInt16) (cell : CellId) (hub after : Hub) : Prop :=
  Adds (station.GoesTo setting) hub after ∧ hub.Steady (some cell) after

theorem passage_scanned (station : Station) (setting : UInt16) (cell : CellId) : Passage (station.Scanned setting cell) where
  refl := fun hub => ⟨(passage_adds _).refl hub, (passage_steady _).refl hub⟩
  trans := fun first second => ⟨(passage_adds _).trans first.1 second.1, (passage_steady _).trans first.2 second.2⟩

theorem scanned_of_calm {cell : CellId} (calm : Calm hub after) : station.Scanned setting cell hub after :=
  ⟨adds_of_calm calm setting, calm.steady _⟩

theorem Posted.scan (posted : station.Posted setting cells hub) :
    station.Scanned setting cells.addr hub ((scanKeypad station.pad).run.run hub).2 := by
  have passage := passage_scanned station setting cells.addr
  have logged (level : Level) (line : String) : Act.Keeps (station.Scanned setting cells.addr) (log level line) :=
    fun hub => scanned_of_calm (calm_log level line hub)
  have stored : ∀ cell ∈ [cells.pins, cells.event], ∀ value,
      Attempt.Keeps (station.Scanned setting cells.addr) (Hub.store cell value) := by
    intro cell member value hub
    refine ⟨adds_store (fun level line => goesTo_of_silent (silent_log level line)) (fun _ _ _ _ same => by cases same) hub, ?_⟩
    refine steady_store (fun own => ?_) value hub
    cases own
    exact posted.apart (List.mem_cons_of_mem _ member)
  have reported := keeps_reportScan ⟨passage, logged⟩ stored
  obtain ⟨scanning, holds⟩ := posted.holds
  rw [run_scanKeypad holds]
  obtain ⟨address, looked, same, _⟩ | ⟨⟨line, looked⟩, _⟩ := run_keypadAddress hub cells
  · rw [posted.uint16?] at same
    have read (transfer : Transfer) (bus : Bus) : station.Scanned setting cells.addr hub { hub with
        buses := hub.buses.put station.bus bus
        journal := hub.journal.push (.bus station.bus address transfer) } := by
      refine ⟨adds_of_push (fun _ _ _ happened => ?_) rfl, fun _ => rfl, rfl, fun _ => rfl, fun _ _ => rfl, rfl, rfl, rfl⟩
      cases happened
      exact ⟨rfl, same⟩
    rw [Attempt.run_bind_of looked, Attempt.run_bind, run_readKeypad]
    cases (hub.bus station.bus).readByte with
    | mk answer bus =>
      cases answer with
      | ok now => exact passage.trans (read (.read now) bus) (reported now _)
      | error fault => exact passage.trans (read .failedRead bus) (logged _ _ _)
  · rw [Attempt.run_bind, looked]
    exact logged _ _ hub

/-- A keypad that has not been inited cannot scan. -/
theorem Bare.scan (bare : station.Bare hub) : ((scanKeypad station.pad).run.run hub).2 = hub := by
  obtain ⟨scanning, holds⟩ := bare.holds
  unfold scanKeypad keypadCellsOf
  rw [Attempt.run_bind_of (run_keypadOf holds), Attempt.run_bind, Attempt.run_bind_of (run_keypadOf holds)]
  rfl

theorem stays_scanKeypad (station : Station) (stage : Stage) : Attempt.Keeps (station.Stays stage) (scanKeypad station.pad) := by
  intro hub here
  cases stage with
  | bare =>
    obtain ⟨stands, served, bare⟩ := here
    rw [bare.scan]
    exact ⟨adds_of_same rfl, stands, served, bare⟩
  | posted =>
    obtain ⟨stands, served, cells, posted⟩ := here
    obtain ⟨adds, steady⟩ := posted.scan
    exact ⟨adds, stands.steady steady, served.steady steady, cells, posted.steady steady⟩
  | loaded =>
    obtain ⟨stands, cells, posted⟩ := here
    obtain ⟨adds, steady⟩ := posted.scan
    exact ⟨adds, stands.steady steady, cells, posted.steady steady⟩

theorem At.holds (here : station.At stage hub) : ∃ state, hub.keypad? station.pad = some state := by
  cases stage with
  | bare =>
    obtain ⟨_, holds⟩ := here.2.2.holds
    exact ⟨_, holds⟩
  | posted =>
    obtain ⟨_, _, _, posted⟩ := here
    obtain ⟨_, holds⟩ := posted.holds
    exact ⟨_, holds⟩
  | loaded =>
    obtain ⟨_, _, posted⟩ := here
    obtain ⟨_, holds⟩ := posted.holds
    exact ⟨_, holds⟩

variable {β : Type} {act : Act β}

/-- However a scan comes about, it leaves the setting alone. -/
theorem stays_of_scans (scans : hub.ScansKeys station.pad act) : station.Stays stage hub (act.run hub).2 := by
  intro here
  have logging := logging_stays station stage
  have scanned := stays_scanKeypad station stage
  obtain ⟨state, holds⟩ := here.holds
  cases scans with
  | command alive =>
    rw [run_scanCommand holds alive]
    exact logging.trans (logging.logged _ _ hub) (scanned _) here
  | turn alive starts handled =>
    rw [run_scanTurn starts handled]
    have rescanned : Act.Keeps (station.Stays stage) (scanAgain station.pad) := fun hub => stays_of_calm (calm_scanAgain _ hub)
    exact logging.trans (stays_of_calm (calm_turned hub _)) (logging.tickKeypad scanned rescanned _) here

/-- All transfers that a keypad makes go to the address of the stage. -/
theorem At.attends (here : station.At stage hub) (attends : hub.Attends station.pad act) :
    Adds (station.GoesTo (station.address stage)) hub (act.run hub).2 := by
  have lines (level : Level) (line : String) : station.GoesTo (station.address stage) (.log level line) :=
    goesTo_of_silent (silent_log level line)
  obtain ⟨state, holds⟩ := here.holds
  refine attends.adds lines (fun _ _ _ _ _ _ same => by cases same) (fun _ _ _ _ _ same => by cases same) holds
    (fun scans => (stays_of_scans scans here).1) ?_
  have again {setting : UInt16} {cells : KeypadCells} (posted : station.Posted setting cells hub) :
      Adds (station.GoesTo setting) hub ((keypadPhase .init station.pad).run.run hub).2 := by
    obtain ⟨_, holds⟩ := posted.holds
    exact (adds_again_keypadPhase holds).mono fun _ => posted.goesTo
  cases stage with
  | bare =>
    obtain ⟨_, holds⟩ := here.2.2.holds
    refine (adds_first_keypadPhase holds).mono fun happening goes name address transfer same => ?_
    obtain ⟨own, target⟩ := goes name address transfer same
    exact ⟨own, congrArg UInt8.toNat target⟩
  | posted =>
    obtain ⟨_, _, _, posted⟩ := here
    exact again posted
  | loaded =>
    obtain ⟨_, _, posted⟩ := here
    exact again posted

end Scan

section Phases

theorem Served.apart (served : station.Served hub) {state : KeypadState} (holds : hub.keypad? station.pad = some state) :
    station.keeper ≠ station.pad := by
  intro same
  have context := storeOf?_eq_some.mp served.store
  rw [same, keypad?_eq_some.mp holds] at context
  cases context

/-- The cells of the keypad are new, and no setting had the name of the address before. -/
theorem Bare.findSetting_made (bare : station.Bare hub) (named : (hub.leaf station.pad).name = station.name) (scanning : Bool)
    (lines : List (Level × String)) :
    (hub.keypadMade station.pad station.bus scanning lines).findSetting station.key = some hub.nextKeypad.addr := by
  have listed : (hub.keypadMade station.pad station.bus scanning lines).settingList =
      hub.settingList ++ [hub.nextKeypad.addr, hub.nextKeypad.interval] := rfl
  have none : hub.settingList.find? (fun cell => decide
      (((hub.keypadMade station.pad station.bus scanning lines).cell cell).name = station.key)) = none := by
    refine List.find?_eq_none.mpr fun cell member => ?_
    obtain ⟨known, unnamed⟩ := bare.unnamed cell member
    have old : (hub.keypadMade station.pad station.bus scanning lines).cell cell = hub.cell cell :=
      (extends_keypad hub station.pad lines).cells cell known
    rw [old, decide_eq_true_eq]
    exact unnamed
  have own : ((hub.keypadMade station.pad station.bus scanning lines).cell hub.nextKeypad.addr).name = station.key := by
    have addr : (hub.keypadMade station.pad station.bus scanning lines).cell hub.nextKeypad.addr = _ := addr_made lines
    rw [addr, key, ← named]
    rfl
  rw [Hub.findSetting, findCell, Hub.listed, listed, List.find?_append, none, Option.none_or]
  exact List.find?_cons_of_pos (by exact decide_eq_true own)

theorem Bare.made (bare : station.Bare hub) (named : (hub.leaf station.pad).name = station.name) {scanning : Bool}
    (holds : hub.keypad? station.pad = some ⟨station.bus, none, scanning⟩) (lines : List (Level × String)) :
    station.Posted 0x20 hub.nextKeypad (hub.keypadMade station.pad station.bus scanning lines) := by
  have addr : (hub.keypadMade station.pad station.bus scanning lines).cell hub.nextKeypad.addr = _ := addr_made lines
  exact
    { holds := ⟨scanning, keypad?_made lines (known_of_context (keypad?_eq_some.mp holds))⟩
      found := bare.findSetting_made named scanning lines
      known := by
        show hub.cells.size < (hub.keypadGrowth station.pad lines).cells.size
        simp [keypadGrowth]
        omega
      kind := by rw [addr]; rfl
      payload := by rw [addr]; rfl
      apart := by simp [nextKeypad] }

theorem At.made (here : station.At .bare hub) {scanning : Bool}
    (holds : hub.keypad? station.pad = some ⟨station.bus, none, scanning⟩) (lines : List (Level × String)) :
    station.At .posted (hub.keypadMade station.pad station.bus scanning lines) := by
  obtain ⟨stands, served, bare⟩ := here
  have own : (hub.keypadMade station.pad station.bus scanning lines).leaf station.pad = _ :=
    Pool.get_set_same (known_of_context (keypad?_eq_some.mp holds)) _
  have other : (hub.keypadMade station.pad station.bus scanning lines).leaf station.keeper = hub.leaf station.keeper :=
    Pool.get_set_other (served.apart holds) _
  refine ⟨⟨?_, ?_⟩, ⟨?_, ?_, served.sound, served.plain, served.stored⟩, hub.nextKeypad, bare.made stands.name holds lines⟩
  · rw [own]
    exact stands.name
  · rw [own]
    exact stands.callbacks
  · rw [other]
    exact served.callbacks
  · rw [storeOf?, other]
    exact served.store

theorem steady_writeKeypad (name : String) (address : UInt8) : Attempt.Keeps (Steady cell?) (writeKeypad name address) :=
  keeps_writeKeypad ⟨passage_steady cell?, fun level line hub => (calm_log level line hub).steady cell?⟩
    (fun _ _ _ => ⟨fun _ => rfl, rfl, fun _ => rfl, fun _ _ => rfl, rfl, rfl, rfl⟩)
    fun _ _ => ⟨fun _ => rfl, rfl, fun _ => rfl, fun _ _ => rfl, rfl, rfl, rfl⟩

/-- Whether or not the expander answers, the keypad has its setting after the first init. -/
theorem At.init (here : station.At .bare hub) :
    Adds (station.GoesTo 0x20) hub ((keypadPhase .init station.pad).run.run hub).2 ∧
      station.At .posted ((keypadPhase .init station.pad).run.run hub).2 := by
  refine ⟨here.attends (.own (.keypad .init)), ?_⟩
  obtain ⟨scanning, holds⟩ := here.2.2.holds
  obtain ⟨lines, ran⟩ := run_first_keypadPhase holds
  have keeping : Logging fun hub after => station.At .posted hub → station.At .posted after :=
    { refl := fun _ here => here
      trans := fun first second here => second (first here)
      logged := fun level line hub here => here.calm (calm_log level line hub) }
  have settled (hub : Hub) (bus : String) (cells : KeypadCells) (scanning : Bool)
      (holds : hub.keypad? station.pad = some ⟨bus, some cells, scanning⟩) (here : station.At .posted hub) :
      station.At .posted ((Hub.store cells.ok (.bool true)).run.run hub).2 := by
    refine here.steady (steady_store (Option.not_mem_none _) _ hub) fun _ other posted => steady_store (fun own => ?_) _ hub
    obtain ⟨_, held⟩ := posted.holds
    rw [holds] at held
    cases held
    have same : cells.addr = cells.ok := Option.some.inj own
    exact posted.apart (same ▸ List.mem_cons_self)
  have configured := keeping.configureKeypad
    (fun bus address hub here => here.steady (steady_writeKeypad bus address hub) fun _ _ _ => steady_writeKeypad bus address hub)
    settled (fun command hub here => here.calm (cataloguing_calm.registerCommand command hub))
    (hub.leaf station.pad).name station.bus
  rw [ran]
  exact configured _ (here.made holds lines)

theorem calm_startKeypad (id : LeafId) : Attempt.Keeps Calm (keypadPhase .start id) :=
  cataloguing_calm.keypadPhase (fun same => by cases same) (fun _ => calm_startScan id) fun same => by cases same

/-- What the store can list names the address once. -/
theorem Served.listing (served : station.Served hub) {listed : List Entry}
    (answer : (hub.medium station.store).entries hub.settingsNamespace = .ok listed) :
    (listed.map Entry.key).Nodup ∧ ∃ raw, ⟨station.key, raw⟩ ∈ listed ∧
      Kind.uint16.ofRaw raw = .ok (.uint16 station.setting) := by
  unfold Medium.entries at answer
  split at answer
  · cases answer
  · split at answer
    · rename_i held
      cases answer
      obtain ⟨raw, stored, read⟩ := served.stored
      rw [served.plain, List.append_nil]
      exact ⟨served.sound.nodup_entries held, raw, (served.sound.mem_entries_iff held).mpr stored, read⟩
    · cases answer

theorem payload_of_value {id : CellId} (held : hub.value id = .uint16 setting) :
    (hub.cell id).payload = .uint16 setting := by
  unfold Hub.value at held
  cases payload : (hub.cell id).payload with
  | uint16 n =>
    rw [payload] at held
    cases held
    rfl
  | _ => rw [payload] at held; cases held

theorem leaves_loadSettings (store : String) : Attempt.Keeps (fun hub after => after.leaves = hub.leaves) (loadSettings store) :=
  Intake.loadSettings ⟨⟨Passage.leaves, fun _ _ _ => rfl⟩, fun hub id value _ => leaves_store id value hub⟩ store

/-- What the start of a settings leaf does. -/
theorem run_startSettingsLeaf {id : LeafId} {store : String} (held : hub.storeOf? id = some store) :
    (settingsPhase .start id).run.run hub = ((do
      let report ← loadSettings store
      log .info s!"{(hub.leaf id).name}: loaded {report.loaded} settings, skipped {report.skipped}")
        : Attempt Unit).run.run hub := by
  show (startSettingsLeaf id).run.run hub = _
  unfold startSettingsLeaf
  rw [Attempt.run_bind_of (Attempt.run_get hub), held]

/-- The keypad takes what is stored for it. -/
theorem Posted.load (posted : station.Posted 0x20 cells hub) {listed : List Entry} {raw : Bytes}
    (member : ⟨station.key, raw⟩ ∈ listed) (read : Kind.uint16.ofRaw raw = .ok (.uint16 station.setting))
    (takes : Takes listed hub after) (leaves : after.leaves = hub.leaves) : station.Posted station.setting cells after where
  holds := by
    obtain ⟨scanning, holds⟩ := posted.holds
    exact ⟨scanning, (keypad?_of_leaves leaves station.pad).trans holds⟩
  found := (takes.shape.findSetting _).trans posted.found
  known := takes.shape.size ▸ posted.known
  kind := (takes.shape.kind _).trans posted.kind
  payload := by
    have plain : (hub.cell cells.addr).kind ≠ .event := fun event => by
      rw [posted.kind] at event
      cases event
    exact payload_of_value (takes.taken _ member cells.addr _ posted.found posted.known plain (posted.kind ▸ read))
  apart := posted.apart

/-- The load brings the stored address, unless the store cannot list what it holds. -/
theorem At.load (here : station.At .posted hub) :
    Adds (station.GoesTo 0x20) hub ((settingsPhase .start station.keeper).run.run hub).2 ∧
      station.At (.ofLoad ((settingsPhase .start station.keeper).run.run hub).1)
        ((settingsPhase .start station.keeper).run.run hub).2 := by
  have lines (level : Level) (line : String) : station.GoesTo 0x20 (.log level line) := goesTo_of_silent (silent_log level line)
  have keeping : Housekeeping (Adds (station.GoesTo 0x20)) := housekeeping_adds lines fun _ _ _ _ _ _ same => by cases same
  refine ⟨keeping.settingsPhase (cataloguing_adds lines).registerCommand .start station.keeper hub, ?_⟩
  obtain ⟨stands, served, cells, posted⟩ := id here
  rw [run_startSettingsLeaf served.store]
  cases answer : (hub.medium station.store).entries hub.settingsNamespace with
  | error fault =>
    rw [Attempt.run_bind, run_loadSettings_of_error answer]
    exact here.calm (calm_log _ _ hub)
  | ok listed =>
    obtain ⟨distinct, raw, member, read⟩ := served.listing answer
    obtain ⟨report, after, ran, takes⟩ := run_loadSettings_of answer distinct
    have leaves := leaves_loadSettings station.store hub
    rw [ran] at leaves
    rw [Attempt.run_bind_of ran]
    have same : after.leaf station.pad = hub.leaf station.pad := congrArg (Pool.get · station.pad) leaves
    have stands : station.Stands after := ⟨same ▸ stands.name, same ▸ stands.callbacks⟩
    have loaded : station.At .loaded after := ⟨stands, cells, posted.load member read takes leaves⟩
    exact loaded.calm (calm_log _ _ after)

end Phases

end Station

end LeafHub
