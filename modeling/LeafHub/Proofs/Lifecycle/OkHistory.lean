import LeafHub.Proofs.Hub.Configured
import LeafHub.Proofs.Lifecycle.Flags
import LeafHub.Proofs.Lifecycle.Reinit

namespace LeafHub

open Hub

/-- The stake of a leaf in the cell that says whether it has been configured. -/
def Stake.ofOk (leaf : LeafId) (ok : CellId) (names : List String) : Stake where
  leaf
  item? := none
  cells := [ok]
  names
  pins := []

namespace Hub

variable {hub between after : Hub} {leaf : LeafId}

/-- The `ok` cell of a leaf says so. A leaf that has not been inited has no such cell. -/
def SaysOk (hub : Hub) (leaf : LeafId) (flag : Bool) : Prop :=
  match hub.outfit? leaf with
  | some outfit => hub.Shows outfit.ok (.bool flag)
  | none => flag = false

theorem saysOk_of_outfit {flag : Bool} {outfit : Outfit} (has : hub.outfit? leaf = some outfit) :
    hub.SaysOk leaf flag ↔ hub.Shows outfit.ok (.bool flag) := by
  rw [SaysOk, has]

theorem saysOk_of_none {flag : Bool} (bare : hub.outfit? leaf = none) : hub.SaysOk leaf flag ↔ flag = false := by
  rw [SaysOk, bare]

/-- The leaf keeps its class and what it has been fitted out with, and nobody writes its `ok` cell. -/
structure SparesOk (hub : Hub) (leaf : LeafId) (after : Hub) : Prop where
  drives : hub.Drives leaf → after.Drives leaf
  outfit : after.outfit? leaf = hub.outfit? leaf
  shown : ∀ outfit, hub.outfit? leaf = some outfit → KeepsShown outfit.ok hub after

theorem SparesOk.saysOk (spares : hub.SparesOk leaf after) {flag : Bool} (said : hub.SaysOk leaf flag) :
    after.SaysOk leaf flag := by
  cases had : hub.outfit? leaf with
  | none => exact (saysOk_of_none (spares.outfit.trans had)).mpr ((saysOk_of_none had).mp said)
  | some outfit =>
    exact (saysOk_of_outfit (spares.outfit.trans had)).mpr (spares.shown outfit had _ ((saysOk_of_outfit had).mp said))

theorem drives_of_same (context : (after.leaf leaf).context = (hub.leaf leaf).context)
    (leafClass : (after.leaf leaf).leafClass = (hub.leaf leaf).leafClass) (drives : hub.Drives leaf) :
    after.Drives leaf := by
  rw [Drives, led?, keypad?, leafClass, context]
  exact drives

theorem isSome_led?_of_outfit {cells : LedCells} (has : hub.outfit? leaf = some (.led cells)) :
    (hub.led? leaf).isSome = true := by
  obtain ⟨context, holds, made⟩ := Option.bind_eq_some_iff.mp has
  cases context with
  | led state => rw [led?_eq_some.mpr holds, Option.isSome_some]
  | keypad state => simp [Context.outfit?] at made
  | _ => cases made

theorem isSome_keypad?_of_outfit {cells : KeypadCells} (has : hub.outfit? leaf = some (.keypad cells)) :
    (hub.keypad? leaf).isSome = true := by
  obtain ⟨context, holds, made⟩ := Option.bind_eq_some_iff.mp has
  cases context with
  | keypad state => rw [keypad?_eq_some.mpr holds, Option.isSome_some]
  | led state => simp [Context.outfit?] at made
  | _ => cases made

/-- What respects the stake of a leaf in the cell spares it. -/
theorem sparesOk_of_respects {outfit : Outfit} {names : List String} (had : hub.outfit? leaf = some outfit)
    (sole : (Stake.ofOk leaf outfit.ok names).Sole hub)
    (respects : (Stake.ofOk leaf outfit.ok names).Respects hub after) : hub.SparesOk leaf after := by
  obtain ⟨spared, later⟩ := respects sole
  have context : (after.leaf leaf).context = (hub.leaf leaf).context := spared.context
  have own : outfit.ok ∈ (Stake.ofOk leaf outfit.ok names).cells := List.mem_singleton.mpr rfl
  obtain ⟨cell, value⟩ := spared.cells outfit.ok own
  refine ⟨drives_of_same context spared.leafClass, by rw [outfit?, outfit?, context], fun other has flag shows' => ?_⟩
  obtain rfl : other = outfit := Option.some.inj (has.symm.trans had)
  exact ⟨(later.cells other.ok own).1, (congrArg Cell.kind cell).trans shows'.kind, value.trans shows'.value⟩

section Init

variable {flag : Bool}

/-- The classes of all leaves are the same. -/
def SameClass (hub after : Hub) : Prop :=
  ∀ id, (after.leaf id).leafClass = (hub.leaf id).leafClass

theorem frame_sameClass : Frame SameClass := by
  refine frame_of_leaves ⟨fun _ _ => rfl, fun first second id => (second id).trans (first id)⟩ (fun same id => ?_)
    fun _ _ leafClass other => ?_
  · rw [Hub.leaf, Hub.leaf, same]
  · rw [leaf_set]
    split
    · rename_i here
      rw [leafClass, here.1]
    · rfl

/-- The init of an LED leaves it with an `ok` cell that tells whether this init configured the device, if that was not
told before. -/
theorem initLed_shows (led : (hub.leaf leaf).leafClass.callbacks = .led) {state : LedState}
    (holds : hub.led? leaf = some state) (said : hub.SaysOk leaf flag) :
    ∃ cells, ((ledPhase .init leaf).run.run hub).2.outfit? leaf = some (.led cells) ∧
      ((ledPhase .init leaf).run.run hub).2.Shows cells.ok (.bool (flag || hub.configures leaf)) := by
  have configures : hub.configures leaf = ((hub.pin state.pin).drive false).1 := by
    rw [Hub.configures, led, holds]
    rfl
  obtain ⟨pin, cells, lit⟩ := state
  have had := outfit?_of_led holds
  cases cells with
  | none =>
    obtain rfl := (saysOk_of_none had).mp said
    obtain ⟨lines, ran⟩ := run_first_ledPhase holds
    have made : (hub.ledMade leaf pin lit lines).led? leaf = _ :=
      led?_made lines (known_of_context (led?_eq_some.mp holds))
    have row : (hub.nextLed.ok, ledOk) ∈ (Outfit.led hub.nextLed).rows .runtime := by simp [Outfit.rows]
    have plain : ledOk.start.kind ≠ .event := by decide
    have fresh : (hub.grow (hub.ledGrowth leaf lines)).Shows hub.nextLed.ok (.bool false) :=
      (growsBy_led hub leaf lines).shows row plain
    rw [ran, configures]
    have settled := settles_readyLed hub.nextLed _ (outfit?_of_led made)
    exact ⟨hub.nextLed, settled.2, readyLed_shows made (fresh.of_same rfl rfl)⟩
  | some cells =>
    rw [run_again_ledPhase holds, configures]
    exact ⟨cells, (settles_readyLed cells hub had).2, readyLed_shows holds ((saysOk_of_outfit had).mp said)⟩

/-- As `initLed_shows`, for a keypad. -/
theorem initKeypad_shows (keypad : (hub.leaf leaf).leafClass.callbacks = .keypad) {state : KeypadState}
    (holds : hub.keypad? leaf = some state) (said : hub.SaysOk leaf flag) :
    ∃ cells, ((keypadPhase .init leaf).run.run hub).2.outfit? leaf = some (.keypad cells) ∧
      ((keypadPhase .init leaf).run.run hub).2.Shows cells.ok (.bool (flag || hub.configures leaf)) := by
  have configures : hub.configures leaf =
      (decide (hub.addrSetting state ≤ 0x7F) && (hub.bus state.bus).write.1.isOk) := by
    rw [Hub.configures, keypad, holds]
    rfl
  obtain ⟨bus, cells, scanning⟩ := state
  have had := outfit?_of_keypad holds
  cases cells with
  | none =>
    obtain rfl := (saysOk_of_none had).mp said
    obtain ⟨lines, ran⟩ := run_first_keypadPhase holds
    have made : (hub.keypadMade leaf bus scanning lines).keypad? leaf = _ :=
      keypad?_made lines (known_of_context (keypad?_eq_some.mp holds))
    have row : (hub.nextKeypad.ok, keypadOk) ∈ (Outfit.keypad hub.nextKeypad).rows .runtime := by simp [Outfit.rows]
    have plain : keypadOk.start.kind ≠ .event := by decide
    have fresh : (hub.grow (hub.keypadGrowth leaf lines)).Shows hub.nextKeypad.ok (.bool false) :=
      (growsBy_keypad hub leaf lines).shows row plain
    have setting : (hub.keypadMade leaf bus scanning lines).addrSetting ⟨bus, some hub.nextKeypad, scanning⟩ =
        hub.addrSetting ⟨bus, none, scanning⟩ := by
      have addr : (hub.keypadMade leaf bus scanning lines).cell hub.nextKeypad.addr = _ := addr_made lines
      rw [addrSetting, Option.bind_some, uint16?, Hub.value, addr]
      rfl
    have shown := configureKeypad_shows (hub.leaf leaf).name bus made (fresh.of_same rfl rfl)
    rw [setting] at shown
    rw [ran, configures]
    exact ⟨hub.nextKeypad, (settles_configureKeypad hub.nextKeypad _ bus _ (outfit?_of_keypad made)).2, shown⟩
  | some cells =>
    obtain ⟨lines, ran⟩ := run_again_keypadPhase holds
    have held : (hub.withLines lines).keypad? leaf = some ⟨bus, some cells, scanning⟩ := holds
    have still : (hub.withLines lines).Shows cells.ok (.bool flag) := ((saysOk_of_outfit had).mp said).of_same rfl rfl
    have settled := settles_configureKeypad cells (hub.leaf leaf).name bus _ (outfit?_of_keypad held)
    have shown := configureKeypad_shows (hub.leaf leaf).name bus held still
    rw [ran, configures]
    exact ⟨cells, settled.2, shown⟩

end Init

/-- As `Alike`, and pins and buses are as they were. -/
structure Poised (leaf : LeafId) (hub after : Hub) : Prop extends Alike leaf hub after where
  pins : after.pins = hub.pins
  buses : after.buses = hub.buses

theorem passage_poised (leaf : LeafId) : Passage (Poised leaf) where
  refl := fun hub => ⟨(passage_alike leaf).refl hub, rfl, rfl⟩
  trans := fun first second =>
    { toAlike := (passage_alike leaf).trans first.toAlike second.toAlike
      pins := second.pins.trans first.pins
      buses := second.buses.trans first.buses }

theorem poised_beginInit : Act.Keeps (Poised leaf) (beginInit leaf) := by
  intro hub
  have alike : Alike leaf hub ((beginInit leaf).run hub).2 := alike_beginInit hub
  obtain ⟨lines, began⟩ := run_beginInit hub leaf
  refine ⟨alike, ?_, ?_⟩ <;> rw [began] <;> rfl

theorem poised_endInit (outcome : Except Fault Unit) : Act.Keeps (Poised leaf) (endInit leaf outcome) := by
  intro hub
  have alike : Alike leaf hub ((endInit leaf outcome).run hub).2 := alike_endInit outcome hub
  cases outcome <;> exact ⟨alike, rfl, rfl⟩

namespace Poised

variable (poised : Poised leaf hub after)

include poised

theorem configures : after.configures leaf = hub.configures leaf := by
  have led : after.led? leaf = hub.led? leaf := by rw [led?, led?, poised.context]
  have keypad : after.keypad? leaf = hub.keypad? leaf := by rw [keypad?, keypad?, poised.context]
  have pin (name : String) : after.pin name = hub.pin name := by rw [Hub.pin, Hub.pin, poised.pins]
  have bus (name : String) : after.bus name = hub.bus name := by rw [Hub.bus, Hub.bus, poised.buses]
  have setting (state : KeypadState) : after.addrSetting state = hub.addrSetting state := by
    simp only [addrSetting, uint16?, Hub.value, Hub.cell, poised.cells, poised.flags]
  simp only [Hub.configures, poised.leafClass, led, keypad, pin, bus, setting]

theorem sparesOk : hub.SparesOk leaf after where
  drives := drives_of_same poised.context poised.leafClass
  outfit := poised.toAlike.outfit?
  shown := fun _ _ _ shows' => shows'.of_same poised.cells poised.flags

theorem tells {outfit : Outfit} {value : Value} (drives : hub.Drives leaf) (has : hub.outfit? leaf = some outfit)
    (shown : hub.Shows outfit.ok value) : after.Drives leaf ∧
      ∃ outfit, after.outfit? leaf = some outfit ∧ after.Shows outfit.ok value :=
  ⟨poised.sparesOk.drives drives, outfit, poised.toAlike.outfit?.trans has, shown.of_same poised.cells poised.flags⟩

end Poised

end Hub

namespace Routine

variable {σ : Type} {app : Application σ} {leaf : LeafId} {world after : World σ} {outcome : Except Fault Unit}

/-- A leaf has been inited once for each entry, which tells whether that init configured the device. Whatever happened
beside that spared its `ok` cell. -/
inductive Inited (app : Application σ) (leaf : LeafId) : List Bool → World σ → Prop
  | never {world : World σ} : world.hub.Drives leaf → world.hub.outfit? leaf = none → Inited app leaf [] world
  | call {calls : List Bool} {before after : World σ} {outcome : Except Fault Unit} : Inited app leaf calls before →
      (initLeaf leaf).Returns app before outcome after → Inited app leaf (calls ++ [before.hub.configures leaf]) after
  | aside {calls : List Bool} {before after : World σ} : Inited app leaf calls before →
      before.hub.SparesOk leaf after.hub → Inited app leaf calls after

/-- What one init makes of what the `ok` cell said before it. -/
theorem initLeaf_shows (drives : world.hub.Drives leaf) {flag : Bool} (said : world.hub.SaysOk leaf flag)
    (returns : (initLeaf leaf).Returns app world outcome after) : after.hub.Drives leaf ∧
      ∃ outfit, after.hub.outfit? leaf = some outfit ∧
        after.hub.Shows outfit.ok (.bool (flag || world.hub.configures leaf)) := by
  have within (attempt : Attempt Unit) (called : calls .init leaf (world.hub.leaf leaf).leafClass.callbacks =
      (liftM attempt.run : Routine σ (Except Fault Unit))) :
      ∃ between : Hub, Poised leaf world.hub between ∧ Poised leaf (attempt.run.run between).2 after.hub := by
    obtain ⟨between, before, last, ended, behind⟩ := returns_initLeaf_within (passage_poised leaf)
      (fun poised => poised.leafClass) (fun _ => ⟨alike_retain _, rfl, rfl⟩) (fun _ => ⟨alike_release _, rfl, rfl⟩)
      poised_beginInit poised_endInit called
    obtain ⟨_, rfl⟩ := returns.unique ended
    exact ⟨between, before, behind⟩
  obtain ⟨led, has⟩ | ⟨keypad, has⟩ := drives
  · obtain ⟨between, before, behind⟩ := within (ledPhase .init leaf) (by rw [led]; rfl)
    obtain ⟨state, holds⟩ := Option.isSome_iff_exists.mp has
    have same : (between.leaf leaf).leafClass.callbacks = .led := before.leafClass ▸ led
    have held := led?_eq_some.mpr (before.context.trans (led?_eq_some.mp holds))
    obtain ⟨cells, fitted, shown⟩ := initLed_shows same held (before.sparesOk.saysOk said)
    rw [before.configures] at shown
    refine behind.tells (.inl ⟨?_, isSome_led?_of_outfit fitted⟩) fitted shown
    rw [frame_sameClass.ledPhase .init leaf between leaf]
    exact same
  · obtain ⟨between, before, behind⟩ := within (keypadPhase .init leaf) (by rw [keypad]; rfl)
    obtain ⟨state, holds⟩ := Option.isSome_iff_exists.mp has
    have same : (between.leaf leaf).leafClass.callbacks = .keypad := before.leafClass ▸ keypad
    have held := keypad?_eq_some.mpr (before.context.trans (keypad?_eq_some.mp holds))
    obtain ⟨cells, fitted, shown⟩ := initKeypad_shows same held (before.sparesOk.saysOk said)
    rw [before.configures] at shown
    refine behind.tells (.inr ⟨?_, isSome_keypad?_of_outfit fitted⟩) fitted shown
    rw [frame_sameClass.keypadPhase .init leaf between leaf]
    exact same

/-- What the `ok` cell tells after any number of inits is whether one of them configured the device. -/
theorem Inited.shows {calls : List Bool} (inited : Inited app leaf calls world) :
    world.hub.Drives leaf ∧ world.hub.SaysOk leaf (calls.any id) ∧
      (calls ≠ [] → (world.hub.outfit? leaf).isSome = true) := by
  induction inited with
  | never drives bare => exact ⟨drives, (saysOk_of_none bare).mpr rfl, fun some => absurd rfl some⟩
  | @call calls before after outcome _ returns ih =>
    obtain ⟨drives, said, _⟩ := ih
    obtain ⟨still, outfit, fitted, shown⟩ := initLeaf_shows drives said returns
    refine ⟨still, (saysOk_of_outfit fitted).mpr ?_, fun _ => by rw [fitted]; rfl⟩
    rwa [List.any_append, List.any_cons, List.any_nil, Bool.or_false]
  | @aside calls before after _ spares ih =>
    obtain ⟨drives, said, fitted⟩ := ih
    exact ⟨spares.drives drives, spares.saysOk said, fun some => spares.outfit ▸ fitted some⟩

/-- However often an LED or a keypad is inited, whatever its pin or its bus refuses and whatever address is set, while
nobody else writes its `ok` cell: every init returns, and the cell tells whether any init up to then configured the
device. So after an init it tells what that init did unless the device was configured before and that init failed to. -/
theorem ok_tells_any_init {earlier : List Bool} {configured : Bool}
    (inited : Inited app leaf (earlier ++ [configured]) world) :
    (∀ world : World σ, world.hub.Drives leaf → ∃ outcome after, (initLeaf leaf).Returns app world outcome after) ∧
    (∀ (hub after : Hub) (outfit : Outfit) (names : List String), hub.outfit? leaf = some outfit →
      (Stake.ofOk leaf outfit.ok names).Sole hub → (Stake.ofOk leaf outfit.ok names).Respects hub after →
        hub.SparesOk leaf after) ∧
    ∃ outfit, world.hub.outfit? leaf = some outfit ∧
      world.hub.value outfit.ok = .bool (earlier.any id || configured) ∧
      ((world.hub.value outfit.ok = .bool true ↔ configured = true) ↔ (configured = true ∨ true ∉ earlier)) := by
  refine ⟨fun world drives => ?_, fun hub after outfit names had sole respects => ?_, ?_⟩
  · obtain ⟨outcome, after, _, returns, _⟩ := @returns_initLeaf_of_drives σ app world leaf drives
    exact ⟨outcome, after, returns⟩
  · exact sparesOk_of_respects had sole respects
  · obtain ⟨_, said, fitted⟩ := inited.shows
    obtain ⟨outfit, has⟩ := Option.isSome_iff_exists.mp (fitted (by simp))
    have value := ((saysOk_of_outfit has).mp said).value
    rw [List.any_append, List.any_cons, List.any_nil, Bool.or_false] at value
    refine ⟨outfit, has, value, ?_⟩
    rw [value]
    cases configured <;> simp

/-- A hub with one LED, whose pin refuses requests after a plan. -/
def fickleHub (faults : List Bool) : Hub :=
  { fresh .standard with
    leaves := ⟨#[Leaf.fresh ⟨"lamp", none, .led⟩ "led" (some (.ledOn "pin"))]⟩
    pins := [("pin", ⟨faults, false⟩)] }

/-- The LED has been inited a number of times. -/
def fickleWorld (faults : List Bool) : Nat → World Unit
  | 0 => ⟨fickleHub faults, ()⟩
  | times + 1 => ((initLeaf 0 : Routine Unit (Except Fault Unit)).run .silent 6 (fickleWorld faults times)).2

/-- The second init of two fails to configure the LED, and the cell tells that it is configured. -/
theorem ok_outlives_configuration :
    (fickleWorld [false, true] 0).hub.configures 0 = true ∧ (fickleWorld [false, true] 1).hub.configures 0 = false ∧
      (fickleWorld [false, true] 2).hub.outfit? 0 = some (.led (fickleHub [false, true]).nextLed) ∧
      ((initLeaf 0 : Routine Unit (Except Fault Unit)).run .silent 6 (fickleWorld [false, true] 1)).1.answer? =
        some (.error .io) ∧
      ¬((fickleWorld [false, true] 2).hub.value (fickleHub [false, true]).nextLed.ok = .bool true ↔
        (fickleWorld [false, true] 1).hub.configures 0 = true) := by
  decide +kernel

theorem ok_tells_any_init_refused :
    (fickleWorld [true, false, true] 2).hub.configures 0 = false ∧
      (fickleWorld [true, false, true] 3).hub.value (fickleHub [true, false, true]).nextLed.ok = .bool true := by
  have returns (times : Nat) (outcome : Except Fault Unit) (ended : ((initLeaf 0 : Routine Unit (Except Fault Unit)).run
      .silent 6 (fickleWorld [true, false, true] times)).1.answer? = some outcome) :
      (initLeaf 0).Returns .silent (fickleWorld [true, false, true] times) outcome
        (fickleWorld [true, false, true] (times + 1)) :=
    ⟨6, run_eq_of_answer? ended⟩
  have never : Inited .silent 0 [] (fickleWorld [true, false, true] 0) := .never (.inl ⟨rfl, rfl⟩) rfl
  have once := never.call (returns 0 (.error .io) (by decide +kernel))
  have twice := once.call (returns 1 (.ok ()) (by decide +kernel))
  have thrice := twice.call (returns 2 (.error .io) (by decide +kernel))
  have told : (fickleWorld [true, false, true] 0).hub.configures 0 = false ∧
      (fickleWorld [true, false, true] 1).hub.configures 0 = true ∧
      (fickleWorld [true, false, true] 2).hub.configures 0 = false := by decide +kernel
  obtain ⟨refused, taken, again⟩ := told
  have made : (fickleWorld [true, false, true] 3).hub.outfit? 0 =
      some (.led (fickleHub [true, false, true]).nextLed) := by decide +kernel
  obtain ⟨_, _, outfit, has, value, _⟩ := ok_tells_any_init thrice
  obtain rfl := Option.some.inj (made.symm.trans has)
  rw [refused, taken, again] at value
  exact ⟨again, value⟩

end Routine

end LeafHub
