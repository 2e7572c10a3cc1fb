import LeafHub.Proofs.Hub.Housekeeping
import LeafHub.Shell

namespace LeafHub

/-- What is typed for a variable goes into the one that its name finds. -/
theorem Passage.setValue {R : Hub → Hub → Prop} (passage : Passage R) {name : String}
    (stored : ∀ hub id, hub.findVariable name = some id → ∀ value, R hub ((Hub.store id value).run.run hub).2)
    (words : List String) : Act.Keeps R (Shell.setValue name words) := by
  unfold Shell.setValue
  refine Passage.look fun hub => ?_
  split
  · exact passage.refl hub
  · rename_i id found
    refine passage.from (Hub.keeps_storeText passage (stored hub id found) _) fun answer => ?_
    split
    · exact passage.bind passage.get fun _ => passage.pure _
    · exact passage.pure _

/-- The leaf that a handler serves. -/
def WorkHandler.leaf? : WorkHandler → Option LeafId
  | .ledChange leaf | .keypadScan leaf => some leaf
  | .custom _ => none

/-- A relation that certain leaves stay within at work, where each writes the cells that it made for itself. -/
structure Labour (served : LeafId → Prop) (R : Hub → Hub → Prop) : Prop extends Housekeeping R where
  noted : ∀ hub (happening : Happening), happening.isPlain = true →
    R hub { hub with journal := hub.journal.push happening }
  bussed : ∀ hub buses, R hub { hub with buses }
  asked : ∀ hub id state level, served id → hub.led? id = some state → R hub (hub.asked state.pin level)
  lit : ∀ hub id state lit, served id → hub.led? id = some state →
    R hub ((Hub.setContext id (.led { state with lit })).run hub).2
  written : ∀ hub id cell value, served id → hub.Owns id cell → R hub ((Hub.store cell value).run.run hub).2
  counted : ∀ hub id cell delta, served id → hub.Owns id cell → R hub ((Hub.count cell delta).run.run hub).2
  scheduled : ∀ hub id bus cells delay, served id → hub.keypad? id = some ⟨bus, some cells, true⟩ →
    R hub ((Hub.schedule cells.scan delay).run hub).2

namespace Labour

open Passage

variable {served : LeafId → Prop} {R : Hub → Hub → Prop} (labour : Labour served R)

include labour

theorem note (happening : Happening) (plain : happening.isPlain = true) : Act.Keeps R (Hub.note happening) :=
  fun hub => labour.noted hub happening plain

theorem setBus (name : String) (bus : Bus) : Act.Keeps R (Hub.setBus name bus) :=
  fun hub => labour.bussed hub _

theorem writeKeypad (name : String) (address : UInt8) : Attempt.Keeps R (Hub.writeKeypad name address) :=
  Hub.keeps_writeKeypad labour.toLogging labour.setBus fun _ => labour.note _ rfl

section Leaf

variable {id : LeafId} (own : served id)

include own

theorem adjusts : AdjustsWithin R id :=
  fun hub cell value adjusts => labour.written hub id cell value own adjusts.owns

theorem driveLed (level : Bool) : Attempt.Keeps R (Hub.driveLed id level) :=
  fun hub => Hub.keeps_driveLed labour.toPassage labour.logged (fun state => labour.asked hub id state level own)
    fun state => labour.lit (hub.asked state.pin level) id state level own

theorem leafStep {hub after : Hub} (step : Hub.LeafStep id hub after) : R hub after := by
  cases step with
  | noted happening plain => exact labour.noted hub happening plain
  | bussed buses => exact labour.bussed hub buses
  | drove state lit => exact labour.driveLed own lit hub
  | stored cell value owns => exact labour.written hub id cell value own owns
  | counted cell delta owns => exact labour.counted hub id cell delta own owns

theorem leafWork {hub after : Hub} (work : Hub.LeafWork id hub after) : R hub after :=
  work.within labour.toPassage (labour.leafStep own)

theorem applyLed : Attempt.Keeps R (Hub.applyLed id) :=
  fun hub => labour.leafWork own (Hub.leafWork_applyLed hub)

theorem ledCommand (args : List String) : Act.Keeps R (Hub.ledCommand id args) :=
  labour.toLogging.ledCommand (labour.adjusts own) args

theorem scanKeypad : Attempt.Keeps R (Hub.scanKeypad id) :=
  fun hub => labour.leafWork own (Hub.leafWork_scanKeypad hub)

theorem scanAgain : Act.Keeps R (Hub.scanAgain id) :=
  fun hub => Hub.keeps_scanAgain labour.toPassage fun bus cells => labour.scheduled hub id bus cells _ own

end Leaf

theorem runHandler {handler : WorkHandler} (own : ∀ id, handler.leaf? = some id → served id) :
    Act.Keeps R (Hub.runHandler handler) := by
  cases handler with
  | ledChange leaf =>
    exact labour.bind (labour.ledChanged (labour.applyLed (own leaf rfl))) fun _ => labour.pure _
  | keypadScan leaf =>
    have ticked := labour.tickKeypad (labour.scanKeypad (own leaf rfl)) (labour.scanAgain (own leaf rfl))
    exact labour.bind ticked fun _ => labour.pure _
  | custom behaviour => exact labour.pure _

end Labour

/-- As `Labour`, and the calls and the commands of the leaves stay within the relation, where these have what a first init
makes. A leaf asks for turns of its own item. -/
structure Upkeep (served : LeafId → Prop) (R : Hub → Hub → Prop) : Prop extends Labour served R where
  scanned : ∀ hub id state scanning, served id → hub.keypad? id = some state →
    R hub ((Hub.setContext id (.keypad { state with scanning })).run hub).2
  rescheduled : ∀ hub id bus cells scanning delay, served id → hub.keypad? id = some ⟨bus, some cells, scanning⟩ →
    R hub ((Hub.reschedule cells.scan delay).run hub).2
  cancelled : ∀ hub id bus cells scanning, served id → hub.keypad? id = some ⟨bus, some cells, scanning⟩ →
    R hub ((Hub.cancel cells.scan).run hub).2
  registerCommand : ∀ command, Attempt.Keeps R (Hub.registerCommand command)

namespace Upkeep

open Passage

variable {served : LeafId → Prop} {R : Hub → Hub → Prop} (upkeep : Upkeep served R)

include upkeep

theorem settingsPhase (phase : Phase) (id : LeafId) : Attempt.Keeps R (Hub.settingsPhase phase id) :=
  upkeep.toHousekeeping.settingsPhase upkeep.registerCommand phase id

section Leaf

variable {id : LeafId} (own : served id)

include own

/-- The queue is asked about the item once the flag of the keypad is set. -/
theorem switchScan {scanning : Bool} {ask : ItemId → Act Bool}
    (asked : ∀ hub bus cells, hub.keypad? id = some ⟨bus, some cells, scanning⟩ → R hub ((ask cells.scan).run hub).2) :
    Attempt.Keeps R (Hub.switchScan scanning ask id) := by
  intro hub
  refine Hub.keeps_switchScan upkeep.toPassage upkeep.logged (fun state => upkeep.scanned hub id state scanning own)
    fun state cells holds made => ?_
  have known := Hub.known_of_context (Hub.keypad?_eq_some.mp holds)
  exact asked _ state.bus cells (made ▸ Hub.keypad?_setContext known { state with scanning })

theorem startScan : Attempt.Keeps R (Hub.startScan id) := by
  rw [Hub.startScan_eq]
  exact upkeep.switchScan own fun hub bus cells => upkeep.rescheduled hub id bus cells true 0 own

theorem stopScan : Attempt.Keeps R (Hub.stopScan id) := by
  rw [Hub.stopScan_eq]
  exact upkeep.switchScan own fun hub bus cells => upkeep.cancelled hub id bus cells false own

theorem ledPhase {phase : Phase} (init : phase = .init → Attempt.Keeps R (Hub.initLed id)) :
    Attempt.Keeps R (Hub.ledPhase phase id) :=
  upkeep.toLogging.ledPhase init (upkeep.applyLed own) (upkeep.driveLed own false)

theorem keypadPhase {phase : Phase} (init : phase = .init → Attempt.Keeps R (Hub.initKeypad id)) :
    Attempt.Keeps R (Hub.keypadPhase phase id) :=
  upkeep.toLogging.keypadPhase init (fun _ => upkeep.startScan own) fun _ => upkeep.stopScan own

theorem keypadCommand (args : List String) : Act.Keeps R (Hub.keypadCommand id args) :=
  upkeep.toLogging.keypadCommand (fun _ => upkeep.scanKeypad own) (fun _ => upkeep.startScan own)
    (fun _ => upkeep.stopScan own) (upkeep.adjusts own)

end Leaf

end Upkeep

/-- As `Upkeep`, and whatever a first init makes counts as one change. -/
structure Regime (served : LeafId → Prop) (R : Hub → Hub → Prop) : Prop extends Upkeep served R where
  ledMade : ∀ hub id state, served id → hub.led? id = some state → state.cells = none →
    R hub ((Hub.installLed id state).run.run hub).2
  keypadMade : ∀ hub id state, served id → hub.keypad? id = some state → state.cells = none →
    R hub ((Hub.installKeypad id state).run hub).2

namespace Regime

variable {served : LeafId → Prop} {R : Hub → Hub → Prop} (regime : Regime served R) {id : LeafId} (own : served id)

include regime own

theorem initLed : Attempt.Keeps R (Hub.initLed id) :=
  regime.toLogging.initLed (fun hub state => regime.ledMade hub id state own) (regime.driveLed own false)
    (regime.adjusts own) regime.registerCommand

theorem ledPhase (phase : Phase) : Attempt.Keeps R (Hub.ledPhase phase id) :=
  regime.toUpkeep.ledPhase own fun _ => regime.initLed own

theorem initKeypad : Attempt.Keeps R (Hub.initKeypad id) :=
  regime.toLogging.initKeypad (fun hub state => regime.keypadMade hub id state own) regime.writeKeypad
    (regime.adjusts own) regime.registerCommand

theorem keypadPhase (phase : Phase) : Attempt.Keeps R (Hub.keypadPhase phase id) :=
  regime.toUpkeep.keypadPhase own fun _ => regime.initKeypad own

end Regime

namespace Conduct

open Passage

variable {R : Hub → Hub → Prop} (conduct : Conduct R)

include conduct

/-- Where all cells may be written, all leaves stay within the relation. -/
theorem labour : Labour (fun _ => True) R where
  toPassage := conduct.toPassage
  logged := conduct.log
  shelved := conduct.setMedium
  entered := fun hub id value _ => conduct.store id value hub
  noted := conduct.noted
  bussed := conduct.bussed
  asked := fun hub _ state level _ _ =>
    conduct.trans (conduct.pinned hub (hub.pins.put state.pin ((hub.pin state.pin).drive level).2))
      (conduct.noted { hub with pins := hub.pins.put state.pin ((hub.pin state.pin).drive level).2 } (.pin state.pin level _) rfl)
  lit := fun hub id state lit _ => conduct.lit hub id state lit
  written := fun hub _ cell value _ _ => conduct.store cell value hub
  counted := fun hub _ cell delta _ _ => conduct.count cell delta hub
  scheduled := fun hub id bus cells delay _ => conduct.scheduled hub id bus cells delay

theorem handleSet (key : String) (raw : Bytes) : Attempt.Keeps R (Hub.handleSet key raw) :=
  conduct.labour.handleSet key raw

theorem loadSettings (store : String) : Attempt.Keeps R (Hub.loadSettings store) :=
  conduct.labour.loadSettings store

theorem settingsLeafCommand (id : LeafId) (args : List String) : Act.Keeps R (Hub.settingsLeafCommand id args) :=
  conduct.labour.settingsLeafCommand id args

theorem ledCommand (id : LeafId) (args : List String) : Act.Keeps R (Hub.ledCommand id args) :=
  conduct.labour.ledCommand trivial args

theorem runHandler (handler : WorkHandler) : Act.Keeps R (Hub.runHandler handler) :=
  conduct.labour.runHandler fun _ _ => trivial

/-- In a turn queues change and a run may begin, and nothing else is new about it. -/
theorem takeTurn (queued : ∀ id queue, Act.Keeps R (Hub.setQueue id queue))
    (began : ∀ item label, Act.Keeps R (Hub.note (.began item label))) (id : QueueId) :
    Act.Keeps R (Hub.takeTurn id) := by
  unfold Hub.takeTurn
  refine conduct.bind conduct.get fun hub => ?_
  dsimp only
  refine conduct.bind (queued _ _) fun _ => ?_
  split
  · exact conduct.pure _
  · refine conduct.bind (queued _ _) fun _ => ?_
    exact conduct.bind (began _ _) fun _ => conduct.runHandler _

theorem setValue (name : String) (words : List String) : Act.Keeps R (Shell.setValue name words) :=
  conduct.toPassage.setValue (fun hub id _ value => conduct.store id value hub) words

end Conduct

namespace Frame

open Passage

variable {R : Hub → Hub → Prop} (frame : Frame R)

include frame

theorem installLed (id : LeafId) (state : LedState) : Attempt.Keeps R (Hub.installLed id state) := by
  unfold Hub.installLed
  refine frame.tryBind frame.tryGet fun hub => ?_
  refine frame.tryBind (tryLift (frame.newDefinedFor _ _)) fun duty => ?_
  refine frame.tryBind (tryLift (frame.newDefinedFor _ _)) fun ok => ?_
  refine frame.tryBind (tryLift (frame.newDefinedFor _ _)) fun on => ?_
  refine frame.tryBind (tryLift (frame.newDefinedFor _ _)) fun blinks => ?_
  refine frame.tryBind (tryLift (frame.registerSettings _)) fun _ => ?_
  refine frame.tryBind (tryLift (frame.registerVariables _)) fun _ => ?_
  refine frame.tryBind (tryLift (frame.newItem _)) fun change => ?_
  refine frame.tryBind (frame.subscribe _ _) fun _ => ?_
  exact frame.tryBind (frame.subscribe _ _) fun _ => tryLift (frame.contexted _ _)

theorem installKeypad (id : LeafId) (state : KeypadState) : Act.Keeps R (Hub.installKeypad id state) := by
  unfold Hub.installKeypad
  refine frame.bind frame.get fun hub => ?_
  refine frame.bind (frame.newDefinedFor _ _) fun addr => ?_
  refine frame.bind (frame.newDefinedFor _ _) fun interval => ?_
  refine frame.bind (frame.newDefinedFor _ _) fun ok => ?_
  refine frame.bind (frame.newDefinedFor _ _) fun pins => ?_
  refine frame.bind (frame.newDefinedFor _ _) fun event => ?_
  refine frame.bind (frame.registerSettings _) fun _ => ?_
  refine frame.bind (frame.registerVariables _) fun _ => ?_
  exact frame.bind (frame.newItem _) fun scan => frame.contexted _ _

theorem regime : Regime (fun _ => True) R where
  toLabour := frame.toConduct.labour
  scanned := fun hub id _ _ _ _ => frame.contexted id _ hub
  rescheduled := fun hub _ _ cells _ delay _ _ => frame.rescheduled cells.scan delay hub
  cancelled := fun hub _ _ cells _ _ _ => frame.cancelled cells.scan hub
  ledMade := fun hub id state _ _ _ => frame.installLed id state hub
  keypadMade := fun hub id state _ _ _ => frame.installKeypad id state hub
  registerCommand := frame.registerCommand

theorem settingsPhase (phase : Phase) (id : LeafId) : Attempt.Keeps R (Hub.settingsPhase phase id) :=
  frame.regime.settingsPhase phase id

theorem ledPhase (phase : Phase) (id : LeafId) : Attempt.Keeps R (Hub.ledPhase phase id) :=
  frame.regime.ledPhase trivial phase

theorem keypadPhase (phase : Phase) (id : LeafId) : Attempt.Keeps R (Hub.keypadPhase phase id) :=
  frame.regime.keypadPhase trivial phase

theorem keypadCommand (id : LeafId) (args : List String) : Act.Keeps R (Hub.keypadCommand id args) :=
  frame.regime.keypadCommand trivial args

end Frame

end LeafHub
