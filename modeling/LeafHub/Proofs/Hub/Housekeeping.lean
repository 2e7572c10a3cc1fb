import LeafHub.Proofs.Hub.LeafStep

namespace LeafHub

open Hub Passage

/-- A relation that taking over what is kept stays within. -/
structure Intake (R : Hub → Hub → Prop) : Prop extends Logging R where
  entered : ∀ hub id value, id ∈ hub.settingList → R hub ((store id value).run.run hub).2

/-- A relation that keeping and loading settings stays within. -/
structure Housekeeping (R : Hub → Hub → Prop) : Prop extends Intake R where
  shelved : ∀ name medium, Act.Keeps R (setMedium name medium)

/-- The init and the commands of a leaf write cells within the relation. -/
def AdjustsWithin (R : Hub → Hub → Prop) (leaf : LeafId) : Prop :=
  ∀ hub cell value, hub.Adjusts leaf cell → R hub ((store cell value).run.run hub).2

variable {R : Hub → Hub → Prop} {leaf : LeafId}

namespace AdjustsWithin

variable (adjusts : AdjustsWithin R leaf)

include adjusts

theorem led (hub : Hub) (pin : String) (cells : LedCells) (lit : Bool)
    (holds : hub.led? leaf = some ⟨pin, some cells, lit⟩) : R hub ((store cells.ok (.bool true)).run.run hub).2 :=
  adjusts hub cells.ok _ (.led holds (by simp))

theorem keypad (hub : Hub) (bus : String) (cells : KeypadCells) (scanning : Bool)
    (holds : hub.keypad? leaf = some ⟨bus, some cells, scanning⟩) : R hub ((store cells.ok (.bool true)).run.run hub).2 :=
  adjusts hub cells.ok _ (.keypad holds (by simp))

end AdjustsWithin

/-- One act after another, from a hub on of which something is known. -/
protected theorem Passage.from {α β : Type} {act : Act α} {next : α → Act β} {hub : Hub} (passage : Passage R)
    (first : R hub (act.run hub).2) (rest : ∀ answer, (next answer).Keeps R) : R hub ((act >>= next).run hub).2 :=
  passage.trans first (rest _ _)

/-- One attempt after another, from a hub on of which something is known. -/
theorem Passage.tryFrom {α β : Type} {attempt : Attempt α} {next : α → Attempt β} {hub : Hub} (passage : Passage R)
    (first : R hub (attempt.run.run hub).2)
    (rest : ∀ answer after, attempt.run.run hub = (.ok answer, after) → R after ((next answer).run.run after).2) :
    R hub ((attempt >>= next).run.run hub).2 := by
  rw [Attempt.run_bind]
  split
  · rename_i answer after done
    rw [done] at first
    exact passage.trans first (rest answer after done)
  · rename_i fault after done
    rwa [done] at first

/-- A setting that is found by its name is listed. -/
theorem Hub.mem_settingList {hub : Hub} {name : String} {id : CellId} (found : hub.findSetting name = some id) :
    id ∈ hub.settingList :=
  List.mem_of_find?_eq_some found

/-- What an init of a keypad does once there are cells. -/
def Hub.configureKeypad (leaf : LeafId) (name bus : String) : Attempt Unit := do
  let cells ← keypadCellsOf leaf
  let address ← keypadAddress cells
  writeKeypad bus address
  store cells.ok (.bool true)
  log .info s!"Keypad {name} at 0x{Text.hex [address]}"
  registerCommand ⟨name, "Control keypad", .keypad leaf⟩

/-- A first init makes the cells, and every other one goes on at once. -/
theorem Hub.run_initKeypad {hub : Hub} {state : KeypadState} (holds : hub.keypad? leaf = some state) : ∃ line,
    (initKeypad leaf).run.run hub = (configureKeypad leaf (hub.leaf leaf).name state.bus).run.run
      (if state.cells.isNone then ((installKeypad leaf state).run ((log .info line).run hub).2).2
        else ((log .info line).run hub).2) := by
  refine ⟨s!"keypad init {(hub.leaf leaf).name}", ?_⟩
  have before : ((log .info s!"keypad init {(hub.leaf leaf).name}").run hub).2.keypad? leaf = some state := holds
  unfold initKeypad
  rw [Attempt.run_bind, Attempt.run_get]
  dsimp only
  rw [Attempt.run_bind, Attempt.run_lift]
  dsimp only
  rw [Attempt.run_bind_of (run_keypadOf before)]
  split
  · rw [Attempt.run_bind, Attempt.run_lift]
    rfl
  · rfl

/-- An LED does nothing about a change while it does not run, nor does a leaf that is no LED. -/
theorem Hub.run_ledChanged_of_idle {hub : Hub}
    (idle : ¬(hub.isAlive leaf && (hub.leaf leaf).running && (hub.led? leaf).isSome) = true) :
    (ledChanged leaf).run hub = ((), hub) := by
  unfold ledChanged
  rw [Act.run_bind_of (Act.run_get hub), if_neg idle]
  rfl

/-- What the init of an LED does once the pin is low. -/
def Hub.markLed (leaf : LeafId) : Attempt Unit := do
  store (← ledCellsOf leaf).ok (.bool true)
  log .info s!"LED {((← get).leaf leaf).name} ready"

/-- What the init of an LED does once there are cells. -/
def Hub.readyLed (leaf : LeafId) : Attempt Unit := do
  let name := ((← get).leaf leaf).name
  try configureLed leaf
  catch fault =>
    log .error s!"LED device '{name}' not configured"
    throw fault
  registerCommand ⟨name, "Control status led", .led leaf⟩

namespace Logging

variable (keeping : Logging R)

include keeping

section Led

/-- Any other LED looks at its cells, and then writes to the log at most. -/
theorem ledChanged_after {hub : Hub}
    (awake : (hub.isAlive leaf && (hub.leaf leaf).running && (hub.led? leaf).isSome) = true) :
    R ((applyLed leaf).run.run hub).2 ((Hub.ledChanged leaf).run hub).2 := by
  unfold Hub.ledChanged
  rw [Act.run_bind_of (Act.run_get hub), if_pos awake]
  cases ran : (applyLed leaf).run.run hub with
  | mk answer after =>
    rw [Act.run_bind_of ran]
    cases answer with
    | ok => exact keeping.refl after
    | error fault => exact keeping.logged _ _ after

theorem ledChanged (applied : Attempt.Keeps R (applyLed leaf)) : Act.Keeps R (Hub.ledChanged leaf) := by
  intro hub
  by_cases awake : (hub.isAlive leaf && (hub.leaf leaf).running && (hub.led? leaf).isSome) = true
  · exact keeping.trans (applied hub) (keeping.ledChanged_after awake)
  · rw [run_ledChanged_of_idle awake]
    exact keeping.refl hub

theorem ledCommand (adjusts : AdjustsWithin R leaf) (args : List String) : Act.Keeps R (Hub.ledCommand leaf args) := by
  have line (cells : LedCells) : Attempt.Keeps R (ledLine leaf cells) := by
    unfold ledLine
    refine keeps_ledOf keeping.toPassage fun hub state _ => ?_
    refine keeping.tryBind keeping.tryGet (fun hub => ?_) hub
    dsimp only
    split
    · exact keeping.tryPure _
    · exact keeping.tryThrow _
  have run : Attempt.Keeps R (runLedCommand leaf args) := by
    unfold runLedCommand
    refine keeps_ledCellsOf keeping.toPassage fun hub pin cells lit holds => ?_
    have stored (cell : CellId) (own : cell ∈ [cells.ok, cells.on, cells.duty]) (value : Value) :=
      adjusts hub cell value (.led holds own)
    dsimp only
    split
    · exact keeping.tryFrom (stored _ (by simp) _) fun _ after _ => line cells after
    · exact keeping.tryFrom (stored _ (by simp) _) fun _ after _ => line cells after
    · exact keeping.tryFrom (keeps_storeText keeping.toPassage (stored _ (by simp)) _) fun _ after _ => line cells after
    · exact line cells hub
  unfold Hub.ledCommand
  refine keeping.bind keeping.get fun hub => ?_
  split
  · exact keeping.bind run fun answer => keeping.pure _
  · exact keeping.pure _

theorem markLed (settled : ∀ hub pin cells lit, hub.led? leaf = some ⟨pin, some cells, lit⟩ →
    R hub ((store cells.ok (.bool true)).run.run hub).2) : Attempt.Keeps R (Hub.markLed leaf) := by
  refine keeps_ledCellsOf keeping.toPassage fun hub pin cells lit holds => ?_
  refine keeping.tryFrom (settled hub pin cells lit holds) fun _ after _ => ?_
  exact keeping.tryBind keeping.tryGet (fun hub => tryLift (keeping.logged _ _)) after

/-- Whatever the pin answers, the LED then does no more than mark itself, write to the log and register its command. -/
theorem readyLed_after {hub driven : Hub} {answer : Except Fault Unit} (marked : Attempt.Keeps R (Hub.markLed leaf))
    (bound : ∀ command, Attempt.Keeps R (registerCommand command))
    (ran : (driveLed leaf false).run.run hub = (answer, driven)) : R driven ((Hub.readyLed leaf).run.run hub).2 := by
  have configured : R driven ((configureLed leaf).run.run hub).2 := by
    unfold configureLed
    rw [Attempt.run_bind, ran]
    cases answer with
    | ok => exact marked driven
    | error => exact keeping.refl driven
  unfold Hub.readyLed
  rw [Attempt.run_bind_of (Attempt.run_get hub), Attempt.run_bind, Attempt.run_tryCatch]
  cases done : (configureLed leaf).run.run hub with
  | mk answer after =>
    rw [done] at configured
    cases answer with
    | ok => exact keeping.trans configured (bound _ after)
    | error fault => exact keeping.trans configured (keeping.logged _ _ after)

theorem readyLed (darkened : Attempt.Keeps R (driveLed leaf false)) (marked : Attempt.Keeps R (Hub.markLed leaf))
    (bound : ∀ command, Attempt.Keeps R (registerCommand command)) : Attempt.Keeps R (Hub.readyLed leaf) :=
  fun hub => keeping.trans (darkened hub) (keeping.readyLed_after marked bound rfl)

theorem initLed (installed : ∀ hub state, hub.led? leaf = some state → state.cells = none →
      R hub ((installLed leaf state).run.run hub).2) (darkened : Attempt.Keeps R (driveLed leaf false))
    (adjusts : AdjustsWithin R leaf) (bound : ∀ command, Attempt.Keeps R (registerCommand command)) :
    Attempt.Keeps R (Hub.initLed leaf) := by
  have ready := keeping.readyLed darkened (keeping.markLed adjusts.led) bound
  unfold Hub.initLed
  refine keeps_ledOf keeping.toPassage fun hub state holds => ?_
  dsimp only
  split
  · rename_i bare
    exact keeping.tryFrom (installed hub state holds (Option.isNone_iff_eq_none.mp bare)) fun _ after _ => ready after
  · exact ready hub

theorem ledPhase {phase : Phase} (init : phase = .init → Attempt.Keeps R (Hub.initLed leaf))
    (applied : Attempt.Keeps R (applyLed leaf)) (darkened : Attempt.Keeps R (driveLed leaf false)) :
    Attempt.Keeps R (Hub.ledPhase phase leaf) := by
  cases phase with
  | init => exact init rfl
  | start => exact applied
  | stop => exact darkened
  | preSleep => exact darkened
  | postSleep =>
    show Attempt.Keeps R (do if ((← get).leaf leaf).running then applyLed leaf)
    refine keeping.tryBind keeping.tryGet fun hub => ?_
    split
    · exact applied
    · exact keeping.tryPure _

end Led

section Keypad

theorem tickKeypad (scanned : Attempt.Keeps R (scanKeypad leaf)) (rescanned : Act.Keeps R (scanAgain leaf)) :
    Act.Keeps R (Hub.tickKeypad leaf) := by
  unfold Hub.tickKeypad
  refine keeping.bind keeping.get fun hub => ?_
  dsimp only
  split
  · exact keeping.bind (keeping.logged _ _) fun _ => keeping.pure _
  · refine keeping.bind keeping.get fun hub => ?_
    split
    · exact keeping.pure _
    · refine keeping.bind scanned fun answer => ?_
      split
      · exact rescanned
      · exact keeping.bind (keeping.logged _ _) fun _ => rescanned

theorem keypadCommand {args : List String} (scanned : args = ["scan"] → Attempt.Keeps R (scanKeypad leaf))
    (started : args = ["start"] → Attempt.Keeps R (startScan leaf))
    (stopped : args = ["stop"] → Attempt.Keeps R (stopScan leaf)) (adjusts : AdjustsWithin R leaf) :
    Act.Keeps R (Hub.keypadCommand leaf args) := by
  have passage := keeping.toPassage
  have address (name : String) (cells : KeypadCells) : Attempt.Keeps R (do
      return s!"{name} addr={(← keypadAddress cells).toNat}\n") :=
    keeping.tryBind (keeps_keypadAddress passage keeping.logged cells) fun _ => keeping.tryPure _
  have interval (name : String) (cells : KeypadCells) : Attempt.Keeps R ((do
      return s!"{name} interval={(← get).keypadPeriod cells}\n") : Attempt String) :=
    keeping.tryBind keeping.tryGet fun _ => keeping.tryPure _
  have run : Attempt.Keeps R (runKeypadCommand leaf args) := by
    unfold runKeypadCommand
    refine keeps_keypadOf keeping.logged fun hub state _ => ?_
    refine keeping.tryBind keeping.tryGet (fun hub => ?_) hub
    dsimp only
    split
    · refine keeping.tryBind (tryLift (keeping.logged _ _)) fun _ => ?_
      exact keeping.tryBind (scanned rfl) fun _ => keeping.tryPure _
    · exact keeping.tryBind (stopped rfl) fun _ => keeping.tryPure _
    · exact keeping.tryBind (started rfl) fun _ => keeping.tryPure _
    · refine keeps_keypadCellsOf passage keeping.logged fun hub bus cells scanning holds => ?_
      split
      · have stored (value : Value) := adjusts hub cells.addr value (.keypad holds (by simp))
        exact keeping.tryFrom (keeps_storeText passage stored _) fun _ after _ => address _ cells after
      · exact address _ cells hub
    · refine keeps_keypadCellsOf passage keeping.logged fun hub bus cells scanning holds => ?_
      split
      · have stored (value : Value) := adjusts hub cells.interval value (.keypad holds (by simp))
        exact keeping.tryFrom (keeps_storeText passage stored _) fun _ after _ => interval _ cells after
      · exact interval _ cells hub
    · refine keeps_keypadCellsOf passage keeping.logged fun hub _ cells _ _ => ?_
      refine keeping.tryBind (keeps_keypadAddress passage keeping.logged cells) (fun address => ?_) hub
      refine keeping.tryBind keeping.tryGet fun hub => ?_
      split
      · exact keeping.tryPure _
      · exact keeping.tryThrow _
  unfold Hub.keypadCommand
  refine keeping.bind keeping.get fun hub => ?_
  split
  · exact keeping.bind run fun answer => keeping.pure _
  · exact keeping.pure _

theorem configureKeypad (written : ∀ bus address, Attempt.Keeps R (writeKeypad bus address))
    (settled : ∀ hub bus cells scanning, hub.keypad? leaf = some ⟨bus, some cells, scanning⟩ →
      R hub ((store cells.ok (.bool true)).run.run hub).2) (bound : ∀ command, Attempt.Keeps R (registerCommand command)) (name bus : String) :
    Attempt.Keeps R (Hub.configureKeypad leaf name bus) := by
  have passage := keeping.toPassage
  refine keeps_keypadCellsOf passage keeping.logged fun hub _ cells scanning holds => ?_
  have looked := keeps_keypadAddress Passage.leaves (fun _ _ _ => rfl) cells hub
  refine keeping.tryFrom (keeps_keypadAddress passage keeping.logged cells hub) fun address after read => ?_
  rw [read] at looked
  have set := leaves_writeKeypad bus address after
  refine keeping.tryFrom (written bus address after) fun _ later done => ?_
  rw [done] at set
  -- the transfer lies between looking up the cell and writing it
  have still := (keypad?_of_leaves (set.trans looked) leaf).trans holds
  refine keeping.tryFrom (settled later _ cells scanning still) fun _ last _ => ?_
  exact keeping.tryBind (tryLift (keeping.logged _ _)) (fun _ => bound _) last

theorem initKeypad (installed : ∀ hub state, hub.keypad? leaf = some state → state.cells = none →
      R hub ((installKeypad leaf state).run hub).2) (written : ∀ bus address, Attempt.Keeps R (writeKeypad bus address))
    (adjusts : AdjustsWithin R leaf) (bound : ∀ command, Attempt.Keeps R (registerCommand command)) :
    Attempt.Keeps R (Hub.initKeypad leaf) := by
  have configured := keeping.configureKeypad written adjusts.keypad bound
  unfold Hub.initKeypad
  refine keeping.tryBind keeping.tryGet fun hub => ?_
  refine keeping.tryBind (tryLift (keeping.logged _ _)) fun _ => ?_
  refine keeps_keypadOf keeping.logged fun hub state holds => ?_
  dsimp only
  split
  · rename_i bare
    refine keeping.tryFrom ?_ fun _ after _ => configured _ _ after
    rw [Attempt.run_lift]
    dsimp only
    exact installed hub state holds (Option.isNone_iff_eq_none.mp bare)
  · exact configured _ _ hub

theorem keypadPhase {phase : Phase} (init : phase = .init → Attempt.Keeps R (Hub.initKeypad leaf))
    (started : phase = .start → Attempt.Keeps R (startScan leaf))
    (stopped : phase = .stop → Attempt.Keeps R (stopScan leaf)) : Attempt.Keeps R (Hub.keypadPhase phase leaf) := by
  unfold Hub.keypadPhase
  refine keeping.tryBind keeping.tryGet fun hub => ?_
  cases phase with
  | init => exact init rfl
  | start => exact keeping.tryBind (tryLift (keeping.logged _ _)) fun _ => started rfl
  | stop => exact keeping.tryBind (tryLift (keeping.logged _ _)) fun _ => stopped rfl
  | preSleep => exact keeping.tryPure _
  | postSleep => exact keeping.tryPure _

end Keypad

section Keyless

variable (keyless : ∀ hub after state, hub.keypad? leaf = some state → R hub after)

include keyless

/-- A leaf that is no keypad does nothing that a keypad would do, beyond a line in the log. -/
theorem keypadOf_keyless {β : Type} (next : KeypadState → Attempt β) : Attempt.Keeps R (keypadOf leaf >>= next) :=
  keeps_keypadOf keeping.logged fun hub state holds => keyless hub _ state holds

theorem tickKeypad_keyless : Act.Keeps R (Hub.tickKeypad leaf) := by
  refine keeping.tickKeypad (keeping.keypadOf_keyless keyless _) fun hub => ?_
  exact keeps_scanAgain keeping.toPassage fun _ _ holds => keyless hub _ _ holds

theorem keypadCommand_keyless (adjusts : AdjustsWithin R leaf) (args : List String) :
    Act.Keeps R (Hub.keypadCommand leaf args) :=
  keeping.keypadCommand (fun _ => keeping.keypadOf_keyless keyless _) (fun _ => keeping.keypadOf_keyless keyless _)
    (fun _ => keeping.keypadOf_keyless keyless _) adjusts

theorem keypadPhase_keyless (phase : Phase) : Attempt.Keeps R (Hub.keypadPhase phase leaf) := by
  refine keeping.keypadPhase (fun _ => ?_) (fun _ => keeping.keypadOf_keyless keyless _)
    fun _ => keeping.keypadOf_keyless keyless _
  unfold Hub.initKeypad
  refine keeping.tryBind keeping.tryGet fun hub => ?_
  exact keeping.tryBind (tryLift (keeping.logged _ _)) fun _ => keeping.keypadOf_keyless keyless _

end Keyless

end Logging

namespace Intake

variable (intake : Intake R)

include intake

/-- What an entry says goes into the setting that its key finds, and into no other cell. -/
theorem handleSet (key : String) (raw : Bytes) : Attempt.Keeps R (Hub.handleSet key raw) := by
  unfold Hub.handleSet
  refine intake.tryBind (tryLift (intake.logged _ _)) fun _ => ?_
  refine tryLook fun hub => ?_
  dsimp only
  split
  · rename_i id found
    split
    · exact intake.tryBind (tryLift (intake.logged _ _)) (fun _ => intake.tryFail _ _) hub
    · rw [Attempt.run_tryCatch]
      have stored : R hub ((storeRaw id raw).run.run hub).2 :=
        keeps_storeRaw intake.toPassage (fun value => intake.entered hub id value (mem_settingList found)) raw
      split
      · rename_i after done
        rwa [done] at stored
      · rename_i fault after done
        rw [done] at stored
        refine intake.trans stored ?_
        exact intake.tryBind (tryLift (intake.logged _ _)) (fun _ => intake.tryThrow _) after
  · split
    · exact intake.tryPure _ hub
    · exact intake.tryThrow _ hub

theorem loadEntries (entries : List Entry) (report : Hub.LoadReport) :
    Act.Keeps R (Hub.loadEntries entries report) := by
  induction entries generalizing report with
  | nil => exact intake.pure _
  | cons entry rest ih =>
    unfold Hub.loadEntries
    refine intake.bind (intake.handleSet _ _) fun answer => ?_
    split
    · exact ih _
    · refine intake.bind intake.get fun hub => ?_
      dsimp only
      split
      · exact intake.bind (intake.logged _ _) fun _ => ih _
      · exact intake.bind (intake.logged _ _) fun _ => ih _

theorem loadSettings (store : String) : Attempt.Keeps R (Hub.loadSettings store) := by
  unfold Hub.loadSettings
  refine intake.tryBind (tryLift (intake.logged _ _)) fun _ => ?_
  refine intake.tryBind intake.tryGet fun hub => ?_
  split
  · exact intake.tryThrow _
  · refine intake.tryBind (tryLift (intake.loadEntries _ _)) fun report => ?_
    refine intake.tryBind (tryLift (intake.logged _ _)) fun _ => ?_
    refine intake.tryBind (tryLift (intake.logged _ _)) fun _ => ?_
    refine intake.tryBind intake.tryGet fun hub => ?_
    refine intake.tryBind (tryLift ?_) fun _ => intake.tryPure _
    exact intake.bind intake.get fun hub => intake.each (fun _ => intake.logged _ _) _

end Intake

namespace Housekeeping

variable (keeping : Housekeeping R)

include keeping

section Settings

theorem writeKey (store ns key : String) (value : Bytes) : Act.Keeps R (Hub.writeKey store ns key value) := by
  unfold Hub.writeKey
  refine keeping.bind keeping.get fun hub => ?_
  dsimp only
  refine keeping.bind (keeping.shelved _ _) fun _ => ?_
  split
  · exact keeping.bind (keeping.logged _ _) fun _ => keeping.pure _
  · exact keeping.pure _

theorem persist (id : CellId) (store : String) : Attempt.Keeps R (Hub.persist id store) := by
  unfold Hub.persist
  refine keeping.tryBind keeping.tryGet fun hub => ?_
  dsimp only
  split
  · exact keeping.tryFail _ _
  · refine keeping.tryBind (tryLift (keeping.writeKey _ _ _ _)) fun answer => ?_
    split
    · exact keeping.tryPure _
    · exact keeping.tryThrow _

theorem offerSettings {offer : String → Bytes → Act (Except Fault Unit)} (offers : ∀ name raw, (offer name raw).Keeps R)
    (ids : List CellId) (taken : Nat) (last : Except Fault Unit) :
    Act.Keeps R (Hub.offerSettings offer ids taken last) := by
  induction ids generalizing taken last with
  | nil => exact keeping.pure _
  | cons id rest ih =>
    unfold Hub.offerSettings
    refine keeping.bind keeping.get fun hub => ?_
    dsimp only
    split
    · exact keeping.bind (keeping.logged _ _) fun _ => ih _ _
    · refine keeping.bind (offers _ _) fun answer => ?_
      split
      · exact ih _ _
      · exact keeping.bind (keeping.logged _ _) fun _ => ih _ _

theorem exportSettings {offer : String → Bytes → Act (Except Fault Unit)}
    (offers : ∀ name raw, (offer name raw).Keeps R) : Act.Keeps R (Hub.exportSettings offer) := by
  unfold Hub.exportSettings
  refine keeping.bind keeping.get fun hub => ?_
  exact keeping.bind (keeping.logged _ _) fun _ => keeping.offerSettings offers _ _ _

theorem saveAll (store : String) : Attempt.Keeps R (Hub.saveAll store) := by
  unfold Hub.saveAll
  refine keeping.tryBind keeping.tryGet fun hub => ?_
  refine keeping.tryBind (tryLift (keeping.exportSettings fun name raw => ?_)) fun answer => ?_
  · refine keeping.bind (keeping.writeKey _ _ _ _) fun answer => ?_
    split <;> exact keeping.pure _
  · split
    refine keeping.tryBind (tryLift (keeping.logged _ _)) fun _ => ?_
    split
    · exact keeping.tryPure _
    · exact keeping.tryThrow _

/-- What an operator typed goes into one cell, and then into the store. -/
theorem setAndPersist {hub : Hub} {id : CellId} (stored : ∀ value, R hub ((Hub.store id value).run.run hub).2)
    (text store : String) : R hub ((Hub.setAndPersist id text store).run.run hub).2 := by
  unfold Hub.setAndPersist
  refine keeping.tryFrom (keeps_storeText keeping.toPassage stored _) fun _ after _ => ?_
  refine keeping.tryCatch (keeping.persist id store) (fun fault => ?_) after
  refine keeping.tryBind keeping.tryGet fun hub => ?_
  exact keeping.tryBind (tryLift (keeping.logged _ _)) fun _ => keeping.tryThrow _

theorem setSetting (store name : String) (words : List String) : Act.Keeps R (Hub.setSetting store name words) := by
  unfold Hub.setSetting
  refine Passage.look fun hub => ?_
  split
  · exact keeping.refl hub
  · rename_i id found
    have set := keeping.setAndPersist (fun value => keeping.entered hub id value (mem_settingList found))
      (" ".intercalate words) store
    refine keeping.from set fun answer => ?_
    split
    · exact keeping.bind keeping.get fun _ => keeping.pure _
    · exact keeping.pure _

theorem settingCommand (store : String) (args : List String) : Act.Keeps R (Hub.settingCommand store args) := by
  unfold Hub.settingCommand
  split
  · refine keeping.bind (keeping.loadSettings store) fun answer => ?_
    split <;> exact keeping.pure _
  · refine keeping.bind (keeping.loadSettings store) fun answer => ?_
    split <;> exact keeping.pure _
  · exact keeping.bind keeping.get fun _ => keeping.pure _
  · refine keeping.bind keeping.get fun hub => ?_
    split <;> exact keeping.pure _
  · refine keeping.bind (keeping.saveAll store) fun answer => ?_
    split <;> exact keeping.pure _
  · refine keeping.bind keeping.get fun hub => ?_
    split <;> exact keeping.pure _
  · exact keeping.setSetting _ _ _
  · exact keeping.pure _

theorem settingsLeafCommand (id : LeafId) (args : List String) : Act.Keeps R (Hub.settingsLeafCommand id args) := by
  unfold Hub.settingsLeafCommand
  refine keeping.bind keeping.get fun hub => ?_
  split
  · split
    · exact keeping.settingCommand _ _
    · exact keeping.pure _
  · exact keeping.pure _

theorem settingsPhase (bound : ∀ command, Attempt.Keeps R (registerCommand command)) (phase : Phase) (id : LeafId) :
    Attempt.Keeps R (Hub.settingsPhase phase id) := by
  cases phase with
  | init =>
    show Attempt.Keeps R (initSettingsLeaf id)
    unfold initSettingsLeaf
    refine keeping.tryBind keeping.tryGet fun hub => ?_
    dsimp only
    split
    · exact keeping.tryBind (tryLift (keeping.logged _ _)) fun _ => keeping.tryFail _ _
    · exact bound _
  | start =>
    show Attempt.Keeps R (startSettingsLeaf id)
    unfold startSettingsLeaf
    refine keeping.tryBind keeping.tryGet fun hub => ?_
    split
    · exact keeping.tryThrow _
    · exact keeping.tryBind (keeping.loadSettings _) fun report => tryLift (keeping.logged _ _)
  | stop => exact keeping.tryPure _
  | preSleep => exact keeping.tryPure _
  | postSleep => exact keeping.tryPure _

end Settings

end Housekeeping

end LeafHub
