import LeafHub.Proofs.Hub.Growth
import LeafHub.Proofs.Hub.Housekeeping

namespace LeafHub

open Hub

namespace Hub

/-- What is pointed to is there, and the hub's own queue takes work. -/
structure Grounded (hub : Hub) : Prop where
  sound : hub.WellFormed
  heard : ∀ cell item, hub.Attached item cell → item < hub.items.size
  queued : ∀ queue item, item ∈ (hub.queues.get queue).ready ∨ item ∈ (hub.queues.get queue).delayed.map Prod.snd →
    item < hub.items.size
  owned : ∀ leaf cell, hub.Owns leaf cell → cell < hub.cells.size
  scanned : ∀ leaf bus cells scanning, hub.keypad? leaf = some ⟨bus, some cells, scanning⟩ → cells.scan < hub.items.size
  settings : ∀ cell ∈ hub.settingList, cell < hub.cells.size
  orderly : (hub.queues.get ownQueue).Orderly
  opened : (hub.queues.get ownQueue).closed = false
  held : (hub.queues.get ownQueue).owners ≠ 0
  past : ∀ happening ∈ hub.journal.toList, ∀ cell, happening.changed? = some cell → cell < hub.cells.size

variable {hub : Hub} {leaf : LeafId}

/-- What has been made for a leaf is its own: nobody else knew it before. -/
theorem Grounded.sole_grow (grounded : hub.Grounded) {stake : Stake} {growth : Growth} (known : stake.leaf < hub.leaves.size)
    (grows : hub.Extends stake.leaf growth) (sound : (hub.grow growth).WellFormed)
    (cells : ∀ cell ∈ stake.cells, hub.cells.size ≤ cell ∧ cell < growth.cells.size ∧ cell ∉ growth.settingList ∧
      (growth.cells.get cell).name ∈ stake.names)
    (items : ∀ item ∈ stake.item?, hub.items.size ≤ item ∧ item < growth.items.size ∧
      (growth.items.get item).queue = ownQueue ∧
      ∀ other < growth.items.size, (growth.items.get other).handler = (growth.items.get item).handler → other = item)
    (pins : ∀ other state, other ≠ stake.leaf → hub.led? other = some state → state.pin ∉ stake.pins) :
    stake.Sole (hub.grow growth) where
  known := known
  sound := sound
  cells := fun cell own => ⟨(cells cell own).2.1, (cells cell own).2.2.1⟩
  named := fun cell own => (cells cell own).2.2.2
  serves := fun item own => by
    obtain ⟨new, there, queue, alone⟩ := items item own
    exact
      { known := there
        handler := grows.handler item new there
        queue := queue
        alone := alone
        orderly := grounded.orderly
        opened := grounded.opened
        owned := grounded.held
        elsewhere := fun id _ => by
          constructor
          · exact fun member => absurd (grounded.queued id item (.inl member)) (Nat.not_lt.mpr new)
          · exact fun member => absurd (grounded.queued id item (.inr member)) (Nat.not_lt.mpr new) }
  clear := fun other context apart holds => by
    have unowned {cell : CellId} (owns : hub.Owns other cell) : cell ∉ stake.cells := fun own =>
      absurd (grounded.owned other cell owns) (Nat.not_lt.mpr (cells cell own).1)
    cases context with
    | led state =>
      have led : hub.led? other = some state := led?_eq_some.mpr holds
      refine ⟨pins other state apart led, fun made some cell member => unowned ?_⟩
      obtain ⟨pin, _, lit⟩ := state
      cases some
      exact .led led member
    | keypad state =>
      have keypad : hub.keypad? other = some state := keypad?_eq_some.mpr holds
      intro made some
      obtain ⟨bus, _, scanning⟩ := state
      cases some
      refine ⟨fun own => ?_, fun cell member => unowned (.keypad keypad member)⟩
      exact absurd (grounded.scanned other bus made scanning keypad) (Nat.not_lt.mpr (items _ own).1)
    | settings store => trivial
    | number n => trivial
    | text s => trivial

/-- An item that has just been made does what no other item did before. -/
theorem alone_added {items : Pool WorkItem} {item : WorkItem}
    (alone : ∀ other < items.size, (items.get other).handler ≠ item.handler) (other : ItemId)
    (known : other < (items.add item).size)
    (handled : ((items.add item).get other).handler = ((items.add item).get items.size).handler) : other = items.size := by
  rw [Pool.get_add_new] at handled
  rcases Nat.lt_or_ge other items.size with old | new
  · rw [Pool.get_add_old old] at handled
    exact absurd handled (alone other old)
  · exact Pool.eq_size_of_new new known

/-- An item that has just been made waits for nothing and hears of nothing. -/
theorem Grounded.new_item (grounded : hub.Grounded) {item : ItemId} (new : hub.items.size ≤ item) :
    item ∉ (hub.queues.get ownQueue).ready ∧ item ∉ (hub.queues.get ownQueue).delayed.map Prod.snd := by
  constructor
  · exact fun member => absurd (grounded.queued ownQueue item (.inl member)) (Nat.not_lt.mpr new)
  · exact fun member => absurd (grounded.queued ownQueue item (.inr member)) (Nat.not_lt.mpr new)

/-- The hub after the first init of an LED has made what the LED needs. -/
def ledMade (hub : Hub) (leaf : LeafId) (pin : String) (lit : Bool) (lines : List (Level × String)) : Hub :=
  ((setContext leaf (.led ⟨pin, some hub.nextLed, lit⟩)).run (hub.grow (hub.ledGrowth leaf lines))).2

/-- The first init of an LED makes what the LED needs and goes on as any other. -/
theorem run_first_ledPhase {pin : String} {lit : Bool} (holds : hub.led? leaf = some ⟨pin, none, lit⟩) :
    ∃ lines, (ledPhase .init leaf).run.run hub = (readyLed leaf).run.run (hub.ledMade leaf pin lit lines) := by
  obtain ⟨lines, installed⟩ := run_installLed hub leaf ⟨pin, none, lit⟩
  refine ⟨lines, ?_⟩
  show (initLed leaf).run.run hub = _
  unfold initLed
  rw [Attempt.run_bind_of (run_ledOf holds)]
  dsimp only
  rw [if_pos (show Option.isNone (none : Option LedCells) = true from rfl), Attempt.run_bind_of installed]
  rfl

/-- Every other init of an LED finds what the first one made. -/
theorem run_again_ledPhase {pin : String} {cells : LedCells} {lit : Bool}
    (holds : hub.led? leaf = some ⟨pin, some cells, lit⟩) :
    (ledPhase .init leaf).run.run hub = (readyLed leaf).run.run hub := by
  show (initLed leaf).run.run hub = _
  unfold initLed
  rw [Attempt.run_bind_of (run_ledOf holds)]
  rfl

section Led

variable {pin : String} {lit : Bool} (lines : List (Level × String))

theorem led?_made (known : leaf < hub.leaves.size) :
    (hub.ledMade leaf pin lit lines).led? leaf = some ⟨pin, some hub.nextLed, lit⟩ := by
  rw [led?_eq_some, Hub.leaf]
  exact congrArg Leaf.context (Pool.get_set_same known _)

theorem wellFormed_ledMade (sound : hub.WellFormed) : (hub.ledMade leaf pin lit lines).WellFormed := by
  have recelled := frame_recelled.installLed leaf ⟨pin, none, lit⟩ hub
  obtain ⟨others, installed⟩ := run_installLed hub leaf ⟨pin, none, lit⟩
  rw [installed] at recelled
  exact (recelled.keeps sound).1.of_same rfl rfl

theorem change_made : (hub.ledMade leaf pin lit lines).items.get hub.items.size = ⟨"led_change", .ledChange leaf, ownQueue⟩ :=
  Pool.get_add_new _ _

theorem on_made : (hub.ledMade leaf pin lit lines).cell hub.nextLed.on =
    newborn (hub.leaf leaf).name ledOn 0 (some hub.items.size) := by
  show (hub.ledGrowth leaf lines).cells.get hub.nextLed.on = _
  simp [ledGrowth, nextLed, Pool.get_add]

theorem duty_made : (hub.ledMade leaf pin lit lines).cell hub.nextLed.duty =
    newborn (hub.leaf leaf).name ledDuty 0 (some hub.items.size) := by
  show (hub.ledGrowth leaf lines).cells.get hub.nextLed.duty = _
  simp [ledGrowth, nextLed, Pool.get_add, Nat.add_assoc]

theorem blinks_made : (hub.ledMade leaf pin lit lines).cell hub.nextLed.blinks =
    newborn (hub.leaf leaf).name ledBlinks 0 none := by
  show (hub.ledGrowth leaf lines).cells.get hub.nextLed.blinks = _
  simp [ledGrowth, nextLed, Pool.get_add]

/-- The item and the pin are the LED's own, where no other LED has the pin. -/
theorem Grounded.sole_led (grounded : hub.Grounded) (holds : hub.led? leaf = some ⟨pin, none, lit⟩)
    (alone : ∀ item < hub.items.size, (hub.items.get item).handler ≠ .ledChange leaf)
    (apart : ∀ other state, other ≠ leaf → hub.led? other = some state → state.pin ≠ pin) {stake : Stake}
    (own : stake.leaf = leaf) (items : ∀ item ∈ stake.item?, item = hub.items.size) (cells : stake.cells = [])
    (pins : ∀ name ∈ stake.pins, name = pin) : stake.Sole (hub.ledMade leaf pin lit lines) := by
  subst own
  have sound : (hub.ledMade stake.leaf pin lit lines).WellFormed := wellFormed_ledMade lines grounded.sound
  refine (grounded.sole_grow (known_of_context (led?_eq_some.mp holds)) (extends_led hub stake.leaf lines)
    (sound.of_same rfl rfl) (fun cell member => ?_) (fun item member => ?_) fun other state elsewhere led member => ?_).setContext _
  · rw [cells] at member
    cases member
  · obtain rfl := items item member
    have held : (hub.ledGrowth stake.leaf lines).items.get hub.items.size =
        ⟨"led_change", .ledChange stake.leaf, ownQueue⟩ := Pool.get_add_new _ _
    exact ⟨Nat.le_refl _, by simp [ledGrowth], by rw [held], alone_added alone⟩
  · exact apart other state elsewhere led (pins _ member)

end Led

/-- The hub after the first init of a keypad has made what the keypad needs. -/
def keypadMade (hub : Hub) (leaf : LeafId) (bus : String) (scanning : Bool) (lines : List (Level × String)) : Hub :=
  ((setContext leaf (.keypad ⟨bus, some hub.nextKeypad, scanning⟩)).run (hub.grow (hub.keypadGrowth leaf lines))).2

theorem run_keypadPhase_init (hub : Hub) (leaf : LeafId) :
    (keypadPhase .init leaf).run.run hub = (initKeypad leaf).run.run hub := by
  unfold keypadPhase
  rw [Attempt.run_bind, Attempt.run_get]

/-- The first init of a keypad makes what the keypad needs and goes on as any other. -/
theorem run_first_keypadPhase {bus : String} {scanning : Bool} (holds : hub.keypad? leaf = some ⟨bus, none, scanning⟩) :
    ∃ lines, (keypadPhase .init leaf).run.run hub =
      (configureKeypad leaf (hub.leaf leaf).name bus).run.run (hub.keypadMade leaf bus scanning lines) := by
  obtain ⟨line, ran⟩ := run_initKeypad holds
  obtain ⟨lines, installed⟩ := run_installKeypad (hub.withLines [(.info, line)]) leaf ⟨bus, none, scanning⟩
  have made : ((installKeypad leaf ⟨bus, none, scanning⟩).run (hub.withLines [(.info, line)])).2 =
      hub.keypadMade leaf bus scanning ((.info, line) :: lines) := by
    rw [installed, grow_withLines]
    rfl
  rw [run_log, if_pos (show Option.isNone (none : Option KeypadCells) = true from rfl), made] at ran
  exact ⟨_, (run_keypadPhase_init hub leaf).trans ran⟩

/-- Every other init of a keypad finds what the first one made. -/
theorem run_again_keypadPhase {bus : String} {cells : KeypadCells} {scanning : Bool}
    (holds : hub.keypad? leaf = some ⟨bus, some cells, scanning⟩) : ∃ lines, (keypadPhase .init leaf).run.run hub =
      (configureKeypad leaf (hub.leaf leaf).name bus).run.run (hub.withLines lines) := by
  obtain ⟨line, ran⟩ := run_initKeypad holds
  rw [run_log] at ran
  exact ⟨_, (run_keypadPhase_init hub leaf).trans ran⟩

/-- An init of a keypad that is none. -/
theorem run_keypadPhase_of_none (bare : hub.keypad? leaf = none) : ∃ lines,
    (keypadPhase .init leaf).run.run hub = (.error .deviceUnavailable, hub.withLines lines) := by
  have look (lines : List (Level × String)) : (hub.withLines lines).keypad? leaf = none := bare
  rw [run_keypadPhase_init]
  unfold initKeypad
  rw [Attempt.run_bind_of (Attempt.run_get hub)]
  dsimp only
  rw [Attempt.run_lift_of (run_log hub _ _), run_keypadOf_of_none (look _), run_log, ← withLines_append]
  exact ⟨_, rfl⟩

section Keypad

variable {bus : String} {scanning : Bool} (lines : List (Level × String))

theorem keypad?_made (known : leaf < hub.leaves.size) :
    (hub.keypadMade leaf bus scanning lines).keypad? leaf = some ⟨bus, some hub.nextKeypad, scanning⟩ := by
  rw [keypad?_eq_some, Hub.leaf]
  exact congrArg Leaf.context (Pool.get_set_same known _)

theorem item_made : (hub.keypadMade leaf bus scanning lines).items.get hub.nextKeypad.scan =
    ⟨"kp_scan", .keypadScan leaf, ownQueue⟩ := Pool.get_add_new _ _

theorem pins_made : (hub.keypadGrowth leaf lines).cells.get hub.nextKeypad.pins =
    newborn (hub.leaf leaf).name keypadPins 0 none := by
  simp [keypadGrowth, nextKeypad, Pool.get_add]

theorem event_made : (hub.keypadGrowth leaf lines).cells.get hub.nextKeypad.event =
    newborn (hub.leaf leaf).name keypadEvent hub.flags.size none := by
  simp [keypadGrowth, nextKeypad, Pool.get_add]

theorem addr_made : (hub.keypadGrowth leaf lines).cells.get hub.nextKeypad.addr =
    newborn (hub.leaf leaf).name keypadAddr 0 none := by
  simp [keypadGrowth, nextKeypad, Pool.get_add, Nat.add_assoc]

/-- The item and the cells of its keys are the keypad's own. -/
theorem Grounded.sole_keypad (grounded : hub.Grounded) (holds : hub.keypad? leaf = some ⟨bus, none, scanning⟩)
    {stake : Stake} (own : stake.leaf = leaf)
    (items : ∀ item ∈ stake.item?, item = hub.nextKeypad.scan ∧
      ∀ other < hub.items.size, (hub.items.get other).handler ≠ .keypadScan leaf)
    (cells : ∀ cell ∈ stake.cells,
      cell = hub.nextKeypad.pins ∧ (newborn (hub.leaf leaf).name keypadPins 0 none).name ∈ stake.names ∨
      cell = hub.nextKeypad.event ∧ (newborn (hub.leaf leaf).name keypadEvent 0 none).name ∈ stake.names)
    (pins : stake.pins = []) : stake.Sole (hub.keypadMade leaf bus scanning lines) := by
  subst own
  have sound : (hub.keypadMade stake.leaf bus scanning lines).WellFormed := by
    have recelled := frame_recelled.installKeypad stake.leaf ⟨bus, none, scanning⟩ hub
    obtain ⟨others, installed⟩ := run_installKeypad hub stake.leaf ⟨bus, none, scanning⟩
    rw [installed] at recelled
    exact (recelled.keeps grounded.sound).1.of_same rfl rfl
  refine (grounded.sole_grow (known_of_context (keypad?_eq_some.mp holds)) (extends_keypad hub stake.leaf lines)
    (sound.of_same rfl rfl) (fun cell member => ?_) (fun item member => ?_) fun _ _ _ _ => by simp [pins]).setContext _
  · have fresh {cell : CellId} (beyond : hub.cells.size + 1 < cell) :
        cell ∉ (hub.keypadGrowth stake.leaf lines).settingList := by
      intro listed
      rcases List.mem_append.mp listed with old | new
      · exact Nat.lt_asymm (grounded.settings cell old) (Nat.lt_of_succ_lt beyond)
      · simp only [nextKeypad, List.mem_cons, List.not_mem_nil, or_false] at new
        rcases new with rfl | rfl
        · exact Nat.lt_asymm (Nat.lt_succ_self _) beyond
        · exact Nat.lt_irrefl _ beyond
    have size : (hub.keypadGrowth stake.leaf lines).cells.size = hub.cells.size + 5 := by simp [keypadGrowth]
    rcases cells cell member with ⟨rfl, named⟩ | ⟨rfl, named⟩
    · refine ⟨by simp [nextKeypad], by simp [nextKeypad, size], fresh (by simp [nextKeypad]), ?_⟩
      rw [pins_made]
      exact named
    · refine ⟨by simp [nextKeypad], by simp [nextKeypad, size], fresh (by simp [nextKeypad]), ?_⟩
      rw [event_made]
      exact named
  · obtain ⟨rfl, alone⟩ := items item member
    have held : (hub.keypadGrowth stake.leaf lines).items.get hub.nextKeypad.scan =
        ⟨"kp_scan", .keypadScan stake.leaf, ownQueue⟩ := Pool.get_add_new _ _
    exact ⟨Nat.le_refl _, by simp [keypadGrowth, nextKeypad], by rw [held], alone_added alone⟩

end Keypad

end Hub

end LeafHub
