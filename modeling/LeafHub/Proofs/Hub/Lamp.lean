import LeafHub.Proofs.Hub.FirstInit
import LeafHub.Proofs.Hub.Listing
import LeafHub.Proofs.Hub.StakeAct
import LeafHub.Proofs.Lifecycle.Flags

namespace LeafHub

open Hub Passage

/-- The stake of an LED in its item and its pin. Its cells may be written by anybody. -/
def Stake.ofLamp (leaf : LeafId) (item : ItemId) (pin : String) : Stake where
  leaf
  item? := some item
  cells := []
  names := []
  pins := [pin]

namespace Hub

/-- The cells of an LED ask for light. -/
def AsksLight (hub : Hub) (cells : LedCells) : Prop :=
  hub.value cells.on = .bool true ∧ ∃ duty, hub.value cells.duty = .byte duty ∧ duty ≠ 0

/-- An LED has its cells, a pin of its own that never fails, and an item that is attached to the cells it follows. -/
structure Wired (hub : Hub) (leaf : LeafId) (pin : String) (cells : LedCells) (item : ItemId) (lit : Bool) : Prop where
  holds : hub.led? leaf = some ⟨pin, some cells, lit⟩
  led : (hub.leaf leaf).leafClass.callbacks = .led
  sole : (Stake.ofLamp leaf item pin).Sole hub
  steady : true ∉ (hub.pin pin).faults
  handler : (hub.items.get item).handler = .ledChange leaf
  heard : hub.Attached item cells.on ∧ hub.Attached item cells.duty
  sorts : (hub.cell cells.on).payload.flags? = none ∧ (hub.cell cells.duty).payload.flags? = none

/-- The LED knows the level of its pin. -/
abbrev Lamp (hub : Hub) (leaf : LeafId) (pin : String) (cells : LedCells) (item : ItemId) : Prop :=
  hub.Wired leaf pin cells item (hub.pin pin).high

/-- The pin shows what the cells ask for, or the item is about to see to it. -/
def Follows (hub : Hub) (pin : String) (cells : LedCells) (item : ItemId) : Prop :=
  hub.isPending item = true ∨ ((hub.pin pin).high = true ↔ hub.AsksLight cells)

/-- The LED has what it had. -/
def KeepsLamp (leaf : LeafId) (pin : String) (cells : LedCells) (item : ItemId) (hub after : Hub) : Prop :=
  hub.Lamp leaf pin cells item → after.Lamp leaf pin cells item

/-- As `KeepsLamp`, and a pin that follows its cells goes on doing so. -/
def KeepsFollowing (leaf : LeafId) (pin : String) (cells : LedCells) (item : ItemId) (hub after : Hub) : Prop :=
  hub.Lamp leaf pin cells item →
    (hub.Follows pin cells item → after.Follows pin cells item) ∧ after.Lamp leaf pin cells item

section Lamp

variable {hub after : Hub} {leaf : LeafId} {pin : String} {cells : LedCells} {item : ItemId}

theorem ledWanted_iff {lit : Bool} : hub.ledWanted ⟨pin, some cells, lit⟩ = true ↔ hub.AsksLight cells := by
  have on : (hub.bool? cells.on).getD false = true ↔ hub.value cells.on = .bool true := by
    unfold bool?
    split
    · rename_i b held
      rw [held]
      simp
    · rename_i other
      exact ⟨nofun, fun held => absurd held (other true)⟩
  have duty : 0 < ((hub.byte? cells.duty).getD 0).toNat ↔ ∃ duty, hub.value cells.duty = .byte duty ∧ duty ≠ 0 := by
    unfold byte?
    split
    · rename_i n held
      have positive : 0 < n.toNat ↔ n ≠ 0 := UInt8.lt_iff_toNat_lt.symm.trans UInt8.pos_iff_ne_zero
      simpa [held] using positive
    · rename_i other
      exact ⟨nofun, fun ⟨n, held, _⟩ => absurd held (other n)⟩
  simp [ledWanted, AsksLight, on, duty]

theorem passage_keepsLamp (leaf : LeafId) (pin : String) (cells : LedCells) (item : ItemId) :
    Passage (KeepsLamp leaf pin cells item) where
  refl := fun _ lamp => lamp
  trans := fun first second lamp => second (first lamp)

theorem passage_keepsFollowing (leaf : LeafId) (pin : String) (cells : LedCells) (item : ItemId) :
    Passage (KeepsFollowing leaf pin cells item) :=
  Passage.under ⟨fun _ follows => follows, fun first second follows => second (first follows)⟩ _

/-- A cell that holds no event object reads the same as long as its payload is the same. -/
theorem value_of_payload {id : CellId} (without : (hub.cell id).payload.flags? = none)
    (same : (after.cell id).payload = (hub.cell id).payload) : after.value id = hub.value id := by
  rw [Hub.value, Hub.value, same]
  exact Payload.value_of_no_flags without _ _

section Spared

variable (respects : (Stake.ofLamp leaf item pin).Respects hub after)

include respects

theorem Lamp.spared (lamp : hub.Lamp leaf pin cells item) :
    after.Lamp leaf pin cells item ∧ (after.pin pin).high = (hub.pin pin).high ∧ hub.Bides item after := by
  obtain ⟨spared, sole⟩ := respects lamp.sole
  have context : (after.leaf leaf).context = (hub.leaf leaf).context := spared.context
  have leafClass : (after.leaf leaf).leafClass = (hub.leaf leaf).leafClass := spared.leafClass
  have same : after.pin pin = hub.pin pin := spared.pins pin List.mem_cons_self
  have bides : hub.Bides item after := spared.items item rfl
  have flags := spared.continues.flags
  refine ⟨?_, congrArg Pin.high same, bides⟩
  exact
    { holds := by
        rw [led?, context, same]
        exact lamp.holds
      led := leafClass ▸ lamp.led
      sole := sole
      steady := same ▸ lamp.steady
      handler := bides.same ▸ lamp.handler
      heard := ⟨(bides.attached _).mpr lamp.heard.1, (bides.attached _).mpr lamp.heard.2⟩
      sorts := ⟨(flags _ (known_of_attached lamp.heard.1)).trans lamp.sorts.1,
        (flags _ (known_of_attached lamp.heard.2)).trans lamp.sorts.2⟩ }

theorem keepsFollowing_of_respects : KeepsFollowing leaf pin cells item hub after := by
  intro lamp
  obtain ⟨later, level, bides⟩ := lamp.spared respects
  refine ⟨fun follows => ?_, later⟩
  -- a payload that changed has made the item pending
  rcases bides.heard _ lamp.heard.1 with on | pending
  · rcases bides.heard _ lamp.heard.2 with duty | pending
    · rcases follows with pending | follows
      · exact .inl (bides.pending pending)
      · refine .inr ?_
        rw [level, AsksLight, value_of_payload lamp.sorts.1 on, value_of_payload lamp.sorts.2 duty]
        exact follows
    · exact .inl pending
  · exact .inl pending

end Spared

section Keeping

variable (leaf : LeafId) (pin : String) (cells : LedCells) (item : ItemId)

theorem housekeeping_keepsFollowing : Housekeeping (KeepsFollowing leaf pin cells item) where
  toPassage := passage_keepsFollowing leaf pin cells item
  logged := fun level line hub => keepsFollowing_of_respects (Stake.respects_log level line hub)
  shelved := fun name medium hub => keepsFollowing_of_respects ((Stake.housekeeping _).shelved name medium hub)
  entered := fun hub id value listed => keepsFollowing_of_respects ((Stake.housekeeping _).entered hub id value listed)

theorem housekeeping_keepsLamp : Housekeeping (KeepsLamp leaf pin cells item) where
  toPassage := passage_keepsLamp leaf pin cells item
  logged := fun level line hub lamp => ((housekeeping_keepsFollowing leaf pin cells item).logged level line hub lamp).2
  shelved := fun name medium hub lamp => ((housekeeping_keepsFollowing leaf pin cells item).shelved name medium hub lamp).2
  entered := fun hub id value listed lamp =>
    ((housekeeping_keepsFollowing leaf pin cells item).entered hub id value listed lamp).2

theorem adjustsWithin_keepsFollowing (other : LeafId) : AdjustsWithin (KeepsFollowing leaf pin cells item) other :=
  fun _ _ value _ => keepsFollowing_of_respects (Stake.respects_store List.not_mem_nil value)

theorem adjustsWithin_keepsLamp (other : LeafId) : AdjustsWithin (KeepsLamp leaf pin cells item) other :=
  fun hub id value adjusts lamp => (adjustsWithin_keepsFollowing leaf pin cells item other hub id value adjusts lamp).2

theorem keepsLamp_registerCommand (command : Command) :
    Attempt.Keeps (KeepsLamp leaf pin cells item) (registerCommand command) :=
  fun hub lamp => (keepsFollowing_of_respects ((Stake.cataloguing _).registerCommand command hub) lamp).2

end Keeping

section Drive

/-- The pin takes what it is given, and the LED remembers it. -/
theorem Wired.driveLed {was : Bool} (wired : hub.Wired leaf pin cells item was) (lit : Bool) : ∃ after,
    (Hub.driveLed leaf lit).run.run hub = (.ok (), after) ∧ after.Lamp leaf pin cells item ∧
      (after.pin pin).high = lit ∧ (after.AsksLight cells ↔ hub.AsksLight cells) := by
  obtain ⟨taken, steady⟩ := drive_of_steady wired.steady lit
  have level := high_drive (hub.pin pin) lit
  rw [if_pos taken] at level
  have ran := run_driveLed wired.holds lit
  rw [if_pos taken] at ran
  generalize set : ((setContext leaf (.led ⟨pin, some cells, lit⟩)).run (hub.asked pin lit)).2 = after at ran
  have driven : after.pin pin = ((hub.pin pin).drive lit).2 := set ▸ hub.pin_asked pin lit
  have own : after.leaf leaf = { hub.leaf leaf with context := some (.led ⟨pin, some cells, lit⟩) } :=
    set ▸ Pool.get_set_same wired.sole.known _
  refine ⟨after, ran, ?_, by rw [driven, level], by rw [← set]; rfl⟩
  exact
    { holds := by rw [led?_eq_some, own, driven, level]
      led := by
        rw [own]
        exact wired.led
      sole := set ▸ (wired.sole.asked pin lit).setContext _
      steady := driven ▸ steady
      handler := set ▸ wired.handler
      heard := set ▸ wired.heard
      sorts := set ▸ wired.sorts }

theorem keepsLamp_driveLed (lit : Bool) : Attempt.Keeps (KeepsLamp leaf pin cells item) (Hub.driveLed leaf lit) := by
  intro hub lamp
  obtain ⟨after, ran, later, _⟩ := lamp.driveLed lit
  have done : ((Hub.driveLed leaf lit).run.run hub).2 = after := congrArg Prod.snd ran
  exact done ▸ later

/-- An LED that goes over to a level shows it, also if it cannot count that. -/
theorem Lamp.showLed (lamp : hub.Lamp leaf pin cells item) {level : Bool} (wanted : level = true ↔ hub.AsksLight cells) :
    ((Hub.showLed leaf level).run.run hub).2.Lamp leaf pin cells item ∧
      ((Hub.showLed leaf level).run.run hub).2.Follows pin cells item := by
  have passage := passage_keepsFollowing leaf pin cells item
  have counted : Attempt.Keeps (KeepsFollowing leaf pin cells item) ((do
      if level then discard (count (← ledCellsOf leaf).blinks 1)) : Attempt Unit) := by
    cases level with
    | false => exact passage.tryPure _
    | true =>
      refine keeps_ledCellsOf passage fun hub _ cells _ _ => ?_
      rw [Attempt.run_discard]
      exact keepsFollowing_of_respects (Stake.respects_count List.not_mem_nil 1)
  obtain ⟨driven, ran, later, high, same⟩ := lamp.driveLed level
  unfold Hub.showLed
  rw [Attempt.run_bind_of ran]
  have follows : driven.Follows pin cells item := .inr (by rw [high, same]; exact wanted)
  obtain ⟨still, last⟩ := counted driven later
  exact ⟨last, still follows⟩

/-- An LED that looks at its cells shows what they ask for. -/
theorem Lamp.applyLed (lamp : hub.Lamp leaf pin cells item) :
    ((Hub.applyLed leaf).run.run hub).2.Lamp leaf pin cells item ∧
      ((Hub.applyLed leaf).run.run hub).2.Follows pin cells item := by
  have wanted : hub.ledWanted ⟨pin, some cells, (hub.pin pin).high⟩ = true ↔ hub.AsksLight cells := ledWanted_iff
  rw [run_applyLed lamp.holds]
  split
  · rename_i same
    rw [same] at wanted
    exact ⟨lamp, .inr wanted⟩
  · generalize hub.ledWanted ⟨pin, some cells, (hub.pin pin).high⟩ = level at wanted
    obtain ⟨_, logged⟩ := keepsFollowing_of_respects (Stake.respects_log .debug (if level then "LED on" else "LED off") hub) lamp
    exact logged.showLed wanted

/-- A first init of an LED is not made again. -/
theorem keepsLamp_initLed : Attempt.Keeps (KeepsLamp leaf pin cells item) (initLed leaf) := by
  refine (housekeeping_keepsLamp leaf pin cells item).initLed (fun hub state holds bare lamp => ?_)
    (keepsLamp_driveLed false) (adjustsWithin_keepsLamp leaf pin cells item leaf) (keepsLamp_registerCommand leaf pin cells item)
  rw [lamp.holds] at holds
  cases holds
  cases bare

theorem keepsLamp_ledPhase (phase : Phase) : Attempt.Keeps (KeepsLamp leaf pin cells item) (ledPhase phase leaf) :=
  (housekeeping_keepsLamp leaf pin cells item).ledPhase (fun _ => keepsLamp_initLed) (fun _ lamp => lamp.applyLed.1)
    (keepsLamp_driveLed false)

section First

/-- Once it has its cells and its pin has been driven low, an LED is wired, also if its init failed after that. -/
theorem Wired.readyLed {was : Bool} (wired : hub.Wired leaf pin cells item was) :
    ((Hub.readyLed leaf).run.run hub).2.Lamp leaf pin cells item := by
  have keeping := housekeeping_keepsLamp leaf pin cells item
  have marked := keeping.markLed (adjustsWithin_keepsLamp leaf pin cells item leaf).led
  obtain ⟨driven, ran, lamp, _⟩ := wired.driveLed false
  exact keeping.readyLed_after marked (keepsLamp_registerCommand leaf pin cells item) ran lamp

/-- An LED of which the class has been called for the first time. -/
theorem Grounded.lamp_of_init {lit : Bool} (grounded : hub.Grounded) (holds : hub.led? leaf = some ⟨pin, none, lit⟩)
    (led : (hub.leaf leaf).leafClass.callbacks = .led) (steady : true ∉ (hub.pin pin).faults)
    (alone : ∀ item < hub.items.size, (hub.items.get item).handler ≠ .ledChange leaf)
    (apart : ∀ other state, other ≠ leaf → hub.led? other = some state → state.pin ≠ pin) :
    ((ledPhase .init leaf).run.run hub).2.Lamp leaf pin hub.nextLed hub.items.size := by
  obtain ⟨lines, ran⟩ := run_first_ledPhase holds
  have known := known_of_context (led?_eq_some.mp holds)
  have on : (hub.ledMade leaf pin lit lines).cell hub.nextLed.on = _ := on_made lines
  have duty : (hub.ledMade leaf pin lit lines).cell hub.nextLed.duty = _ := duty_made lines
  have wired : (hub.ledMade leaf pin lit lines).Wired leaf pin hub.nextLed hub.items.size lit :=
    { holds := led?_made lines known
      led := by
        have own : (hub.ledMade leaf pin lit lines).leaf leaf =
            { hub.leaf leaf with context := some (.led ⟨pin, some hub.nextLed, lit⟩) } := Pool.get_set_same known _
        rw [own]
        exact led
      sole := grounded.sole_led lines holds alone apart rfl (fun _ member => (Option.some.inj member).symm) rfl
        fun _ member => List.mem_singleton.mp member
      steady := steady
      handler := by rw [change_made]
      heard := by
        rw [Attached, Attached, on, duty]
        exact ⟨rfl, rfl⟩
      sorts := by
        rw [on, duty]
        exact ⟨rfl, rfl⟩ }
  rw [ran]
  exact wired.readyLed

theorem Grounded.beginInit (grounded : hub.Grounded) (id : LeafId) : ((Hub.beginInit id).run hub).2.Grounded ∧
    (∀ other, (((Hub.beginInit id).run hub).2.leaf other).context = (hub.leaf other).context) := by
  obtain ⟨lines, began⟩ := run_beginInit hub id
  have context (other : LeafId) : (((Hub.beginInit id).run hub).2.leaf other).context = (hub.leaf other).context := by
    rw [Hub.leaf, leaves_beginInit, Pool.get_set]
    split
    · rename_i here
      rw [here.1]
    · rfl
  have keypad (other : LeafId) : ((Hub.beginInit id).run hub).2.keypad? other = hub.keypad? other := by
    rw [keypad?, keypad?, context]
  have led (other : LeafId) : ((Hub.beginInit id).run hub).2.led? other = hub.led? other := by
    rw [led?, led?, context]
  refine ⟨?_, context⟩
  rw [began] at keypad led ⊢
  exact
    { sound := grounded.sound.of_same rfl rfl
      heard := grounded.heard
      queued := grounded.queued
      owned := fun other cell owns => by
        cases owns with
        | led holds member => exact grounded.owned other cell (.led ((led other).symm.trans holds) member)
        | keypad holds member => exact grounded.owned other cell (.keypad ((keypad other).symm.trans holds) member)
      scanned := fun other bus cells scanning holds => grounded.scanned other bus cells scanning ((keypad other).symm.trans holds)
      settings := grounded.settings
      orderly := grounded.orderly
      opened := grounded.opened
      held := grounded.held
      past := fun happening member cell changed => by
        simp only [withLines, Array.toList_append, List.mem_append, List.mem_map] at member
        obtain old | ⟨line, _, rfl⟩ := member
        · exact grounded.past happening old cell changed
        · cases changed }

/-- An LED that has been inited for the first time, also if the init failed. It does not run. -/
theorem Grounded.lamp {lit : Bool} (grounded : hub.Grounded) (holds : hub.led? leaf = some ⟨pin, none, lit⟩)
    (led : (hub.leaf leaf).leafClass.callbacks = .led) (steady : true ∉ (hub.pin pin).faults)
    (alone : ∀ item < hub.items.size, (hub.items.get item).handler ≠ .ledChange leaf)
    (apart : ∀ other state, other ≠ leaf → hub.led? other = some state → state.pin ≠ pin) :
    ((ledPhase .init leaf).run.run ((Hub.beginInit leaf).run hub).2).2.Lamp leaf pin hub.nextLed hub.items.size ∧
      (((ledPhase .init leaf).run.run ((Hub.beginInit leaf).run hub).2).2.leaf leaf).running = false := by
  have known := known_of_context (led?_eq_some.mp holds)
  obtain ⟨begun, context⟩ := grounded.beginInit leaf
  have same (other : LeafId) : ((Hub.beginInit leaf).run hub).2.led? other = hub.led? other := by
    rw [led?, led?, context]
  have own : ((Hub.beginInit leaf).run hub).2.leaf leaf = { hub.leaf leaf with ready := false, running := false } := by
    rw [Hub.leaf, leaves_beginInit]
    exact Pool.get_set_same known _
  obtain ⟨lines, began⟩ := run_beginInit hub leaf
  have stopped := (frame_sameFlags.ledPhase .init leaf ((Hub.beginInit leaf).run hub).2 leaf).2
  rw [own] at stopped
  refine ⟨?_, stopped⟩
  have inited := begun.lamp_of_init ((same leaf).trans holds) (by rw [own]; exact led) (by rw [began]; exact steady)
    (by rw [began]; exact alone) fun other state elsewhere led => apart other state elsewhere ((same other).symm.trans led)
  have cells : ((Hub.beginInit leaf).run hub).2.nextLed = hub.nextLed := by rw [began]; rfl
  have items : ((Hub.beginInit leaf).run hub).2.items.size = hub.items.size := by rw [began]; rfl
  rwa [cells, items] at inited

end First

end Drive

section Mistaken

theorem keyless_keepsFollowing (hub after : Hub) (state : KeypadState) (holds : hub.keypad? leaf = some state) :
    KeepsFollowing leaf pin cells item hub after :=
  fun lamp => absurd (lamp.holds.symm.trans (led?_of_keypad? holds)) (Option.some_ne_none _)

theorem keepsFollowing_keypadCommand (id : LeafId) (args : List String) :
    Act.Keeps (KeepsFollowing leaf pin cells item) (keypadCommand id args) := by
  by_cases own : id = leaf
  · subst own
    exact (housekeeping_keepsFollowing id pin cells item).keypadCommand_keyless keyless_keepsFollowing
      (adjustsWithin_keepsFollowing id pin cells item id) args
  · exact fun hub => keepsFollowing_of_respects (Stake.respects_keypadCommand own args hub)

theorem keepsFollowing_runHandler {handler : WorkHandler} (other : handler ≠ .ledChange leaf) :
    Act.Keeps (KeepsFollowing leaf pin cells item) (runHandler handler) := by
  by_cases own : handler.leaf? = some leaf
  · cases handler with
    | ledChange id =>
      cases own
      exact absurd rfl other
    | keypadScan id =>
      cases own
      have keeping := housekeeping_keepsFollowing leaf pin cells item
      exact keeping.bind (keeping.tickKeypad_keyless keyless_keepsFollowing) fun _ => keeping.pure _
    | custom behaviour => cases own
  · exact fun hub => keepsFollowing_of_respects (Stake.respects_runHandler own hub)

end Mistaken

section Turn

/-- A running LED that hears of a change looks at its cells. -/
theorem Lamp.ledChanged (lamp : hub.Lamp leaf pin cells item) (alive : hub.isAlive leaf = true) :
    ((Hub.ledChanged leaf).run hub).2.Lamp leaf pin cells item ∧
      ((hub.leaf leaf).running = true → ((Hub.ledChanged leaf).run hub).2.Follows pin cells item) := by
  by_cases running : (hub.leaf leaf).running = true
  · obtain ⟨applied, follows⟩ := lamp.applyLed
    have keeping := housekeeping_keepsFollowing leaf pin cells item
    obtain ⟨still, last⟩ := keeping.ledChanged_after (by simp [alive, running, lamp.holds]) applied
    exact ⟨last, fun _ => still follows⟩
  · rw [run_ledChanged_of_idle (by simp [running])]
    exact ⟨lamp, fun runs => absurd runs running⟩

theorem Lamp.turned (lamp : hub.Lamp leaf pin cells item) (queue : QueueId) :
    (hub.turned queue).Lamp leaf pin cells item where
  holds := lamp.holds
  led := lamp.led
  sole := lamp.sole.turned queue
  steady := lamp.steady
  handler := lamp.handler
  heard := lamp.heard
  sorts := lamp.sorts

/-- A turn of any queue. While the LED does not run, it lets changes pass. -/
theorem Lamp.takeTurn (lamp : hub.Lamp leaf pin cells item) (alive : hub.isAlive leaf = true) (queue : QueueId) :
    ((Hub.takeTurn queue).run hub).2.Lamp leaf pin cells item ∧
      ((hub.leaf leaf).running = true → hub.Follows pin cells item → ((Hub.takeTurn queue).run hub).2.Follows pin cells item) := by
  have aside (other : ((hub.queues.get queue).turn hub.clock).1 ≠ some item) :
      KeepsFollowing leaf pin cells item hub (hub.turned queue) :=
    keepsFollowing_of_respects (Stake.respects_turned fun own member => Option.some.inj member ▸ other)
  rw [run_takeTurn]
  split
  · rename_i started starts
    by_cases handled : (hub.items.get started).handler = .ledChange leaf
    · rw [handled]
      obtain ⟨later, follows⟩ := (lamp.turned queue).ledChanged alive
      exact ⟨later, fun running _ => follows running⟩
    · have elsewhere : ((hub.queues.get queue).turn hub.clock).1 ≠ some item := by
        rw [starts]
        intro same
        exact handled (Option.some.inj same ▸ lamp.handler)
      obtain ⟨follows, later⟩ :=
        (passage_keepsFollowing leaf pin cells item).trans (aside elsewhere) (keepsFollowing_runHandler handled _) lamp
      exact ⟨later, fun _ => follows⟩
  · rename_i starts
    obtain ⟨follows, later⟩ := aside (by rw [starts]; exact nofun) lamp
    exact ⟨later, fun _ => follows⟩

end Turn

end Lamp

end Hub

/-- The acts that bring the pin of an LED in line with its cells, if it runs. -/
inductive Wakes (leaf : LeafId) : {β : Type} → Act β → Prop
  | start : Wakes leaf (ledPhase .start leaf).run
  | postSleep : Wakes leaf (ledPhase .postSleep leaf).run

theorem Hub.Lamp.wakes {hub : Hub} {leaf : LeafId} {pin : String} {cells : LedCells} {item : ItemId} {β : Type}
    {act : Act β} (lamp : hub.Lamp leaf pin cells item) (wakes : Wakes leaf act) :
    ((act.run hub).2.leaf leaf).running = true → (act.run hub).2.Follows pin cells item := by
  cases wakes with
  | start => exact fun _ => lamp.applyLed.2
  | postSleep =>
    have looked : (ledPhase .postSleep leaf).run.run hub =
        ((if (hub.leaf leaf).running then Hub.applyLed leaf else pure () : Attempt Unit).run.run hub) := rfl
    rw [looked]
    split
    · exact fun _ => lamp.applyLed.2
    · rename_i stopped
      exact fun runs => absurd runs stopped

end LeafHub
