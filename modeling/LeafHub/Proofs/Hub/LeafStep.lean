import Mathlib.Logic.Relation
import LeafHub.Proofs.Hub.Requeued

namespace LeafHub

variable {α : Type} {R : Hub → Hub → Prop} {leaf : LeafId}

namespace Passage

/-- A relation under a condition that is kept along with it. -/
theorem under (passage : Passage R) (condition : Hub → Prop) :
    Passage fun hub after => condition hub → R hub after ∧ condition after where
  refl := fun hub holds => ⟨passage.refl hub, holds⟩
  trans := fun first second holds =>
    ⟨passage.trans (first holds).1 (second (first holds).2).1, (second (first holds).2).2⟩

theorem keeps_of_under {ε : Type} (condition : Hub → Prop) {attempt : ExceptT ε Act α} {hub : Hub}
    (keeps : Attempt.Keeps (fun hub after => condition hub → R hub after ∧ condition after) attempt)
    (holds : condition hub) : R hub (attempt.run.run hub).2 :=
  (keeps hub holds).1

theorem leaves : Passage fun hub after => after.leaves = hub.leaves where
  refl := fun _ => rfl
  trans := fun first second => second.trans first

end Passage

/-- The lists are not the leaves. -/
theorem Cataloguing.leaves : Cataloguing fun hub after => after.leaves = hub.leaves where
  toPassage := Passage.leaves
  logged := fun _ _ _ => rfl
  catalogued := fun _ _ _ _ _ _ => rfl

namespace Hub

theorem led?_eq_some {hub : Hub} {state : LedState} :
    hub.led? leaf = some state ↔ (hub.leaf leaf).context = some (.led state) := by
  unfold led?
  split
  · rename_i context
    rw [context, Option.some.injEq, Option.some.injEq, Context.led.injEq]
  · rename_i other
    exact ⟨nofun, fun context => absurd context (other state)⟩

theorem keypad?_eq_some {hub : Hub} {state : KeypadState} :
    hub.keypad? leaf = some state ↔ (hub.leaf leaf).context = some (.keypad state) := by
  unfold keypad?
  split
  · rename_i context
    rw [context, Option.some.injEq, Option.some.injEq, Context.keypad.injEq]
  · rename_i other
    exact ⟨nofun, fun context => absurd context (other state)⟩

theorem known_of_context {hub : Hub} {context : Context} (holds : (hub.leaf leaf).context = some context) :
    leaf < hub.leaves.size := by
  rcases Nat.lt_or_ge leaf hub.leaves.size with known | unknown
  · exact known
  · rw [Hub.leaf, Pool.get_unknown unknown] at holds
    cases holds

theorem leaf_setContext {hub : Hub} (known : leaf < hub.leaves.size) (context : Context) :
    ((setContext leaf context).run hub).2.leaf leaf = { hub.leaf leaf with context := some context } :=
  Pool.get_set_same known _

theorem keypad?_setContext {hub : Hub} (known : leaf < hub.leaves.size) (state : KeypadState) :
    ((setContext leaf (.keypad state)).run hub).2.keypad? leaf = some state := by
  rw [keypad?_eq_some, leaf_setContext known]

/-- A keypad is no LED. -/
theorem led?_of_keypad? {hub : Hub} {state : KeypadState} (holds : hub.keypad? leaf = some state) :
    hub.led? leaf = none := by
  cases led : hub.led? leaf with
  | none => rfl
  | some other =>
    have context := keypad?_eq_some.mp holds
    rw [led?_eq_some.mp led] at context
    cases context

/-- The leaf made the cell for itself. -/
inductive Owns (hub : Hub) (leaf : LeafId) (cell : CellId) : Prop
  | led {pin cells lit} : hub.led? leaf = some ⟨pin, some cells, lit⟩ →
      cell ∈ [cells.ok, cells.on, cells.blinks, cells.duty] → hub.Owns leaf cell
  | keypad {bus cells scanning} : hub.keypad? leaf = some ⟨bus, some cells, scanning⟩ →
      cell ∈ [cells.ok, cells.pins, cells.event, cells.addr, cells.interval] → hub.Owns leaf cell

/-- The cell is one of those that the init or the command of the leaf writes. -/
inductive Adjusts (hub : Hub) (leaf : LeafId) (cell : CellId) : Prop
  | led {pin cells lit} : hub.led? leaf = some ⟨pin, some cells, lit⟩ →
      cell ∈ [cells.ok, cells.on, cells.duty] → hub.Adjusts leaf cell
  | keypad {bus cells scanning} : hub.keypad? leaf = some ⟨bus, some cells, scanning⟩ →
      cell ∈ [cells.ok, cells.addr, cells.interval] → hub.Adjusts leaf cell

theorem Adjusts.owns {hub : Hub} {cell : CellId} (adjusts : hub.Adjusts leaf cell) : hub.Owns leaf cell := by
  cases adjusts with
  | led holds member =>
    refine .led holds ?_
    simp only [List.mem_cons] at member ⊢
    obtain here | here | here | nowhere := member <;> simp_all
  | keypad holds member =>
    refine .keypad holds ?_
    simp only [List.mem_cons] at member ⊢
    obtain here | here | here | nowhere := member <;> simp_all

/-- A step that a leaf takes at work. -/
inductive LeafStep (leaf : LeafId) : Hub → Hub → Prop
  | noted (hub) (happening : Happening) : happening.isPlain = true →
      LeafStep leaf hub { hub with journal := hub.journal.push happening }
  | bussed (hub buses) : LeafStep leaf hub { hub with buses }
  | drove (hub state lit) : hub.led? leaf = some state → LeafStep leaf hub ((driveLed leaf lit).run.run hub).2
  | stored (hub cell value) : hub.Owns leaf cell → LeafStep leaf hub ((store cell value).run.run hub).2
  | counted (hub cell delta) : hub.Owns leaf cell → LeafStep leaf hub ((count cell delta).run.run hub).2

/-- What a leaf did at work. -/
def LeafWork (leaf : LeafId) : Hub → Hub → Prop :=
  Relation.ReflTransGen (LeafStep leaf)

theorem passage_leafWork (leaf : LeafId) : Passage (LeafWork leaf) where
  refl := fun _ => .refl
  trans := .trans

/-- A relation holds of what leaves do at work if it holds of every step. -/
theorem LeafWork.within {hub after : Hub} (work : LeafWork leaf hub after) (passage : Passage R)
    (steps : ∀ {hub after}, LeafStep leaf hub after → R hub after) : R hub after := by
  induction work with
  | refl => exact passage.refl hub
  | tail _ step ih => exact passage.trans ih (steps step)

theorem Requeued.leaves {hub after : Hub} (requeued : hub.Requeued after) : after.leaves = hub.leaves := by
  obtain ⟨queues, journal, rfl⟩ := requeued
  rfl

/-- A store is about cells, queues and notes. -/
theorem leaves_store (cell : CellId) (value : Value) :
    Attempt.Keeps (fun hub after => after.leaves = hub.leaves) (store cell value) := by
  have told (name : String) : Attempt.Keeps (fun hub after => after.leaves = hub.leaves)
      ((do
        note (.stored cell name value)
        notify cell) : Attempt Unit) :=
    fun hub => (requeued_told cell (.stored cell name value) hub).leaves
  unfold store
  refine Passage.leaves.tryBind Passage.leaves.tryGet fun hub => ?_
  dsimp only
  split
  · exact Passage.leaves.tryBind (Passage.tryLift fun _ => rfl) fun _ => Passage.leaves.tryFail _ _
  · split
    · exact Passage.leaves.tryBind (Passage.tryLift fun _ => rfl) fun _ => told _
    · exact Passage.leaves.tryBind (Passage.tryLift fun _ => rfl) fun _ => told _

/-- A configuration write is about the bus, also when it fails. It notes the transfer that was made. -/
theorem keeps_writeKeypad (logging : Logging R) (bussed : ∀ name bus, Act.Keeps R (setBus name bus)) {name : String}
    {address : UInt8} (noted : ∀ transfer, Act.Keeps R (note (.bus name address transfer))) :
    Attempt.Keeps R (writeKeypad name address) := by
  have passage := logging.toPassage
  unfold writeKeypad
  refine passage.tryBind passage.tryGet fun hub => ?_
  dsimp only
  refine passage.tryBind (Passage.tryLift (bussed _ _)) fun _ => ?_
  split
  · exact Passage.tryLift (noted _)
  · refine passage.tryBind (Passage.tryLift (noted _)) fun _ => ?_
    exact passage.tryBind (Passage.tryLift (logging.logged _ _)) fun _ => passage.tryThrow _

theorem leaves_writeKeypad (name : String) (address : UInt8) :
    Attempt.Keeps (fun hub after => after.leaves = hub.leaves) (writeKeypad name address) :=
  keeps_writeKeypad ⟨Passage.leaves, fun _ _ _ => rfl⟩ (fun _ _ _ => rfl) fun _ _ => rfl

theorem keypad?_of_leaves {hub after : Hub} (same : after.leaves = hub.leaves) (id : LeafId) :
    after.keypad? id = hub.keypad? id := by
  simp only [keypad?, Hub.leaf, same]

section Work

open Passage

theorem leafWork_note {happening : Happening} (plain : happening.isPlain = true) :
    Act.Keeps (LeafWork leaf) (note happening) :=
  fun hub => .single (.noted hub happening plain)

theorem leafWork_log (level : Level) (line : String) : Act.Keeps (LeafWork leaf) (log level line) :=
  leafWork_note rfl

theorem leafWork_setBus (name : String) (bus : Bus) : Act.Keeps (LeafWork leaf) (setBus name bus) :=
  fun hub => .single (.bussed hub _)

theorem leafWork_store {hub : Hub} {cell : CellId} (owns : hub.Owns leaf cell) (value : Value) :
    LeafWork leaf hub ((store cell value).run.run hub).2 :=
  .single (.stored hub cell value owns)

theorem run_ledOf {hub : Hub} {state : LedState} (holds : hub.led? leaf = some state) :
    (ledOf leaf).run.run hub = (.ok state, hub) := by
  unfold ledOf
  rw [Attempt.run_bind, Attempt.run_get]
  dsimp only
  rw [holds]
  rfl

theorem run_ledOf_of_none {α : Type} {hub : Hub} (none : hub.led? leaf = none) (next : LedState → Attempt α) :
    (ledOf leaf >>= next).run.run hub = (.error .deviceUnavailable, hub) := by
  unfold ledOf
  rw [Attempt.run_bind, Attempt.run_bind, Attempt.run_get]
  dsimp only
  rw [none]
  rfl

/-- Every part of the state of an LED that an attempt looks at is the state at that moment. -/
theorem keeps_ledOf {β : Type} {next : LedState → Attempt β} (passage : Passage R)
    (rest : ∀ hub state, hub.led? leaf = some state → R hub ((next state).run.run hub).2) :
    Attempt.Keeps R (ledOf leaf >>= next) := by
  intro hub
  cases holds : hub.led? leaf with
  | some state =>
    rw [Attempt.run_bind_of (run_ledOf holds)]
    exact rest hub state holds
  | none =>
    rw [run_ledOf_of_none holds]
    exact passage.refl hub

theorem keeps_ledCellsOf {β : Type} {next : LedCells → Attempt β} (passage : Passage R)
    (rest : ∀ hub pin cells lit, hub.led? leaf = some ⟨pin, some cells, lit⟩ → R hub ((next cells).run.run hub).2) :
    Attempt.Keeps R (ledCellsOf leaf >>= next) := by
  unfold ledCellsOf
  rw [bind_assoc]
  refine keeps_ledOf passage fun hub state holds => ?_
  obtain ⟨pin, cells, lit⟩ := state
  cases cells with
  | some cells => exact rest hub pin cells lit holds
  | none => exact passage.refl hub

theorem run_ledCellsOf {hub : Hub} {pin : String} {cells : LedCells} {lit : Bool}
    (holds : hub.led? leaf = some ⟨pin, some cells, lit⟩) :
    (ledCellsOf leaf).run.run hub = (.ok cells, hub) := by
  unfold ledCellsOf
  rw [Attempt.run_bind_of (run_ledOf holds)]
  rfl

/-- The hub once a pin has been asked for a level. -/
def asked (hub : Hub) (pin : String) (level : Bool) : Hub :=
  { hub with
    pins := hub.pins.put pin ((hub.pin pin).drive level).2
    journal := hub.journal.push (.pin pin level ((hub.pin pin).drive level).1) }

theorem pin_asked (hub : Hub) (pin : String) (level : Bool) : (hub.asked pin level).pin pin = ((hub.pin pin).drive level).2 :=
  congrArg (Option.getD · Pin.fresh) (Directory.get?_put_same hub.pins pin _)

/-- The level is the one that was asked for if the pin took it, and else the one before. -/
theorem high_drive (pin : Pin) (level : Bool) :
    (pin.drive level).2.high = if (pin.drive level).1 then level else pin.high := by
  unfold Pin.drive
  split <;> rfl

/-- A pin that has no failure ahead takes every level, and it still has none ahead then. -/
theorem drive_of_steady {pin : Pin} (steady : true ∉ pin.faults) (level : Bool) :
    (pin.drive level).1 = true ∧ true ∉ (pin.drive level).2.faults := by
  unfold Pin.drive
  cases plan : pin.faults with
  | nil => exact ⟨rfl, List.not_mem_nil⟩
  | cons fault rest =>
    rw [plan, List.mem_cons, not_or] at steady
    cases fault with
    | true => exact absurd rfl steady.1
    | false => exact ⟨rfl, steady.2⟩

/-- The LED remembers what the pin took, and a refusal is logged. -/
theorem run_driveLed {hub : Hub} {pin : String} {made : Option LedCells} {was : Bool}
    (holds : hub.led? leaf = some ⟨pin, made, was⟩) (level : Bool) :
    (driveLed leaf level).run.run hub = if ((hub.pin pin).drive level).1
      then (.ok (), ((setContext leaf (.led ⟨pin, made, level⟩)).run (hub.asked pin level)).2)
      else (.error .io, ((log .error "LED pin write failed (Other)").run (hub.asked pin level)).2) := by
  unfold driveLed
  rw [Attempt.run_bind_of (run_ledOf holds), Attempt.run_bind_of (Attempt.run_get hub)]
  dsimp only
  unfold asked
  cases (hub.pin pin).drive level with
  | mk accepted next => cases accepted <;> rfl

/-- Driving a pin is about the pin and about what the LED remembers of it. -/
theorem keeps_driveLed {hub : Hub} {level : Bool} (passage : Passage R) (logged : ∀ level line, Act.Keeps R (log level line))
    (driven : ∀ state, hub.led? leaf = some state → R hub (hub.asked state.pin level))
    (shown : ∀ state, hub.led? leaf = some state → R (hub.asked state.pin level)
      ((setContext leaf (.led { state with lit := level })).run (hub.asked state.pin level)).2) :
    R hub ((driveLed leaf level).run.run hub).2 := by
  cases holds : hub.led? leaf with
  | none =>
    unfold driveLed
    rw [run_ledOf_of_none holds]
    exact passage.refl hub
  | some state =>
    rw [run_driveLed holds]
    split
    · exact passage.trans (driven state holds) (shown state holds)
    · exact passage.trans (driven state holds) (logged _ _ _)

theorem leafWork_driveLed (lit : Bool) : Attempt.Keeps (LeafWork leaf) (driveLed leaf lit) := by
  intro hub
  cases holds : hub.led? leaf with
  | some state => exact .single (.drove hub state lit holds)
  | none =>
    unfold driveLed
    rw [run_ledOf_of_none holds]
    exact .refl

/-- What an LED does once it knows the level to show. -/
def showLed (leaf : LeafId) (level : Bool) : Attempt Unit := do
  driveLed leaf level
  if level then discard (count (← ledCellsOf leaf).blinks 1)

/-- An LED that is not as its cells want it says what it goes over to. -/
theorem run_applyLed {hub : Hub} {state : LedState} (holds : hub.led? leaf = some state) :
    (applyLed leaf).run.run hub = if hub.ledWanted state = state.lit then (.ok (), hub)
      else (showLed leaf (hub.ledWanted state)).run.run
        ((log .debug (if hub.ledWanted state then "LED on" else "LED off")).run hub).2 := by
  unfold applyLed
  rw [Attempt.run_bind_of (run_ledOf holds), Attempt.run_bind_of (Attempt.run_get hub)]
  dsimp only
  split
  · rfl
  · rw [Attempt.run_bind, Attempt.run_lift]
    rfl

theorem leafWork_showLed (level : Bool) : Attempt.Keeps (LeafWork leaf) (showLed leaf level) := by
  have passage := passage_leafWork leaf
  refine passage.tryBind (leafWork_driveLed level) fun _ => ?_
  split
  · refine keeps_ledCellsOf passage fun hub pin cells lit holds => ?_
    rw [Attempt.run_discard]
    exact .single (.counted hub cells.blinks 1 (.led holds (by simp)))
  · exact passage.tryPure _

theorem leafWork_applyLed : Attempt.Keeps (LeafWork leaf) (applyLed leaf) := by
  intro hub
  cases holds : hub.led? leaf with
  | none =>
    unfold applyLed
    rw [run_ledOf_of_none holds]
    exact .refl
  | some state =>
    rw [run_applyLed holds]
    split
    · exact .refl
    · exact (passage_leafWork leaf).trans (leafWork_log _ _ hub) (leafWork_showLed _ _)

theorem run_keypadOf {hub : Hub} {state : KeypadState} (holds : hub.keypad? leaf = some state) :
    (keypadOf leaf).run.run hub = (.ok state, hub) := by
  unfold keypadOf
  rw [Attempt.run_bind, Attempt.run_get]
  dsimp only
  rw [holds]
  rfl

theorem run_keypadOf_of_none {α : Type} {hub : Hub} (none : hub.keypad? leaf = none) (next : KeypadState → Attempt α) :
    (keypadOf leaf >>= next).run.run hub = (.error .deviceUnavailable,
      ((log .error s!"Did not find leaf context for {(hub.leaf leaf).name}").run hub).2) := by
  unfold keypadOf
  rw [Attempt.run_bind, Attempt.run_bind, Attempt.run_get]
  dsimp only
  rw [none]
  rfl

/-- As `keeps_ledOf`. Without a keypad state there is a line in the log. -/
theorem keeps_keypadOf {β : Type} {next : KeypadState → Attempt β}
    (logged : ∀ level line, Act.Keeps R (log level line))
    (rest : ∀ hub state, hub.keypad? leaf = some state → R hub ((next state).run.run hub).2) :
    Attempt.Keeps R (keypadOf leaf >>= next) := by
  intro hub
  cases holds : hub.keypad? leaf with
  | some state =>
    rw [Attempt.run_bind_of (run_keypadOf holds)]
    exact rest hub state holds
  | none =>
    rw [run_keypadOf_of_none holds]
    exact logged _ _ hub

/-- Sets the flag of a keypad and asks its queue about the item that scans. -/
def switchScan (scanning : Bool) (ask : ItemId → Act Bool) (id : LeafId) : Attempt Unit := do
  let state ← keypadOf id
  setContext id (.keypad { state with scanning })
  match state.cells with
  | some cells => discard (ask cells.scan)
  | none => pure ()

theorem startScan_eq (id : LeafId) : startScan id = switchScan true (reschedule · 0) id := rfl

theorem stopScan_eq (id : LeafId) : stopScan id = switchScan false cancel id := rfl

theorem keeps_switchScan {hub : Hub} {scanning : Bool} {ask : ItemId → Act Bool} (passage : Passage R)
    (logged : ∀ level line, Act.Keeps R (log level line))
    (flagged : ∀ state, hub.keypad? leaf = some state →
      R hub ((setContext leaf (.keypad { state with scanning })).run hub).2)
    (asked : ∀ state cells, hub.keypad? leaf = some state → state.cells = some cells →
      R ((setContext leaf (.keypad { state with scanning })).run hub).2
        ((ask cells.scan).run ((setContext leaf (.keypad { state with scanning })).run hub).2).2) :
    R hub ((switchScan scanning ask leaf).run.run hub).2 := by
  unfold switchScan
  cases holds : hub.keypad? leaf with
  | none =>
    rw [run_keypadOf_of_none holds]
    exact logged _ _ hub
  | some state =>
    rw [Attempt.run_bind_of (run_keypadOf holds), Attempt.run_bind, Attempt.run_lift]
    refine passage.trans (flagged state holds) ?_
    dsimp only
    split
    · rename_i cells made
      rw [Attempt.run_discard]
      exact asked state cells holds made
    · exact passage.refl _

/-- A keypad that is scanning asks for the next scan, and any other leaf for nothing. -/
theorem keeps_scanAgain {hub : Hub} (passage : Passage R)
    (asked : ∀ bus cells, hub.keypad? leaf = some ⟨bus, some cells, true⟩ →
      R hub ((schedule cells.scan (hub.keypadPeriod cells)).run hub).2) : R hub ((scanAgain leaf).run hub).2 := by
  unfold scanAgain
  rw [Act.run_bind_of (Act.run_get hub)]
  split
  · rename_i bus cells scans
    rw [Act.run_discard]
    exact asked bus cells scans
  · exact passage.refl hub

theorem run_keypadCellsOf {hub : Hub} {bus : String} {cells : KeypadCells} {scanning : Bool}
    (holds : hub.keypad? leaf = some ⟨bus, some cells, scanning⟩) : (keypadCellsOf leaf).run.run hub = (.ok cells, hub) := by
  unfold keypadCellsOf
  rw [Attempt.run_bind_of (run_keypadOf holds)]
  rfl

/-- A command of a keypad that prints nothing about what it did. -/
theorem run_keypadCommand_of {hub : Hub} {state : KeypadState} (holds : hub.keypad? leaf = some state)
    (alive : hub.isAlive leaf = true) {args : List String} {attempt : Attempt Unit}
    (plain : runKeypadCommand leaf args = do
      let _ ← keypadOf leaf
      let _ ← get
      attempt
      return "") : ((keypadCommand leaf args).run hub).2 = (attempt.run.run hub).2 := by
  unfold keypadCommand
  rw [Act.run_bind_of (Act.run_get hub), if_pos alive]
  show ((runKeypadCommand leaf args).run.run hub).2 = _
  rw [plain, Attempt.run_bind_of (run_keypadOf holds), Attempt.run_bind_of (Attempt.run_get hub), Attempt.run_bind]
  split
  · rename_i done
    rw [done]
    rfl
  · rename_i done
    rw [done]

/-- What the item of a keypad does: it scans, and whatever comes of it there is a next time. -/
theorem run_tickKeypad {hub : Hub} {state : KeypadState} (holds : hub.keypad? leaf = some state)
    (alive : hub.isAlive leaf = true) : ∃ after, ((tickKeypad leaf).run hub).2 = ((scanAgain leaf).run after).2 ∧
      (after = ((scanKeypad leaf).run.run hub).2 ∨
        ∃ line, after = ((log .debug line).run ((scanKeypad leaf).run.run hub).2).2) := by
  have there : ¬(hub.keypad? leaf).isNone = true := by
    rw [holds]
    exact nofun
  unfold tickKeypad
  rw [Act.run_bind_of (Act.run_get hub), if_neg (by rw [alive]; exact nofun), Act.run_bind_of (Act.run_get hub), if_neg there]
  cases ran : (scanKeypad leaf).run.run hub with
  | mk answer after =>
    rw [Act.run_bind_of ran]
    cases answer with
    | ok => exact ⟨after, rfl, .inl rfl⟩
    | error fault => exact ⟨_, rfl, .inr ⟨_, rfl⟩⟩

theorem keeps_keypadCellsOf {β : Type} {next : KeypadCells → Attempt β} (passage : Passage R)
    (logged : ∀ level line, Act.Keeps R (log level line))
    (rest : ∀ hub bus cells scanning, hub.keypad? leaf = some ⟨bus, some cells, scanning⟩ →
      R hub ((next cells).run.run hub).2) :
    Attempt.Keeps R (keypadCellsOf leaf >>= next) := by
  unfold keypadCellsOf
  rw [bind_assoc]
  refine keeps_keypadOf logged fun hub state holds => ?_
  obtain ⟨bus, cells, scanning⟩ := state
  cases cells with
  | some cells => exact rest hub bus cells scanning holds
  | none => exact passage.refl hub

theorem keeps_keypadAddress (passage : Passage R) (logged : ∀ level line, Act.Keeps R (log level line))
    (cells : KeypadCells) : Attempt.Keeps R (keypadAddress cells) := by
  unfold keypadAddress
  refine passage.tryBind passage.tryGet fun hub => ?_
  dsimp only
  split
  · exact passage.tryPure _
  · exact passage.tryBind (tryLift (logged _ _)) fun _ => passage.tryThrow _

theorem keeps_readKeypad (logging : Logging R) (bussed : ∀ name bus, Act.Keeps R (setBus name bus)) {name : String}
    {address : UInt8} (noted : ∀ transfer, Act.Keeps R (note (.bus name address transfer))) :
    Attempt.Keeps R (readKeypad name address) := by
  have passage := logging.toPassage
  unfold readKeypad
  refine passage.tryBind passage.tryGet fun hub => ?_
  dsimp only
  refine passage.tryBind (tryLift (bussed _ _)) fun _ => ?_
  split
  · exact passage.tryBind (tryLift (noted _)) fun _ => passage.tryPure _
  · refine passage.tryBind (tryLift (noted _)) fun _ => ?_
    exact passage.tryBind (tryLift (logging.logged _ _)) fun _ => passage.tryThrow _

/-- What a scan does once it has read the pins. -/
def reportScan (cells : KeypadCells) (now : UInt8) : Attempt Unit := do
  match (← get).byte? cells.pins with
  | none => throw .typeMismatch
  | some before =>
    if now = before then return ()
    log .debug s!"Keypad change {Text.hex [before]} => {Text.hex [now]}"
    store cells.pins (.byte now)
    (List.range 8).forM (reportKey cells.event before now)

/-- A report stores into the cells of the keys and nowhere else. -/
theorem keeps_reportScan {cells : KeypadCells} (logging : Logging R)
    (stored : ∀ cell ∈ [cells.pins, cells.event], ∀ value, Attempt.Keeps R (store cell value)) (now : UInt8) :
    Attempt.Keeps R (reportScan cells now) := by
  have passage := logging.toPassage
  have pins := stored cells.pins (by simp)
  have event := stored cells.event (by simp)
  have reported (before : UInt8) (key : Nat) : Attempt.Keeps R (Hub.reportKey cells.event before now key) := by
    unfold Hub.reportKey
    dsimp only
    split
    · exact passage.tryPure _
    · split
      · exact passage.tryBind (tryLift (logging.logged _ _)) fun _ => event _
      · exact passage.tryBind (tryLift (logging.logged _ _)) fun _ => event _
  unfold reportScan
  refine passage.tryBind passage.tryGet fun hub => ?_
  split
  · exact passage.tryThrow _
  · split
    · exact passage.tryPure _
    · refine passage.tryBind (tryLift (logging.logged _ _)) fun _ => ?_
      refine passage.tryBind (pins _) fun _ => ?_
      exact passage.tryEach (fun key => reported _ key) _

theorem run_scanKeypad {hub : Hub} {bus : String} {cells : KeypadCells} {scanning : Bool}
    (holds : hub.keypad? leaf = some ⟨bus, some cells, scanning⟩) : (scanKeypad leaf).run.run hub = ((do
      let address ← keypadAddress cells
      let now ← readKeypad bus address
      reportScan cells now) : Attempt Unit).run.run hub := by
  unfold scanKeypad
  rw [Attempt.run_bind_of (run_keypadOf holds), Attempt.run_bind_of (run_keypadCellsOf holds)]
  rfl

/-- What a keypad does between looking up its state and the end of a scan leaves the state as it is, so the cells it
writes are its own at every moment. -/
theorem leafWork_scanKeypad : Attempt.Keeps (LeafWork leaf) (scanKeypad leaf) := by
  have passage := passage_leafWork leaf
  unfold scanKeypad
  refine keeps_keypadOf leafWork_log fun hub state _ => ?_
  refine keeps_keypadCellsOf passage leafWork_log (fun hub bus cells scanning holds => ?_) hub
  have under := passage.under fun hub => hub.keypad? leaf = some ⟨bus, some cells, scanning⟩
  have still {γ : Type} {act : Act γ} (works : Act.Keeps (LeafWork leaf) act)
      (leaves : Act.Keeps (fun hub after => after.leaves = hub.leaves) act) : Act.Keeps (fun hub after =>
        hub.keypad? leaf = some ⟨bus, some cells, scanning⟩ →
          LeafWork leaf hub after ∧ after.keypad? leaf = some ⟨bus, some cells, scanning⟩) act :=
    fun hub holds => ⟨works hub, (keypad?_of_leaves (leaves hub) leaf).trans holds⟩
  have logged (level : Level) (line : String) := still (leafWork_log level line) fun _ => rfl
  have stored (cell : CellId) (own : cell ∈ [cells.pins, cells.event]) (value : Value) :
      Attempt.Keeps (fun hub after => hub.keypad? leaf = some ⟨bus, some cells, scanning⟩ →
        LeafWork leaf hub after ∧ after.keypad? leaf = some ⟨bus, some cells, scanning⟩) (store cell value) := by
    intro hub holds
    have mine : cell ∈ [cells.ok, cells.pins, cells.event, cells.addr, cells.interval] := by grind
    exact ⟨leafWork_store (.keypad holds mine) value, (keypad?_of_leaves (leaves_store cell value hub) leaf).trans holds⟩
  refine Passage.keeps_of_under (fun hub => hub.keypad? leaf = some ⟨bus, some cells, scanning⟩) ?_ holds
  refine under.tryBind (keeps_keypadAddress under logged cells) fun address => ?_
  refine under.tryBind (keeps_readKeypad ⟨under, logged⟩ (fun _ _ => still (leafWork_setBus _ _) fun _ => rfl)
    fun _ => still (leafWork_note rfl) fun _ => rfl) fun now => ?_
  exact keeps_reportScan ⟨under, logged⟩ stored now

end Work

end Hub

end LeafHub
