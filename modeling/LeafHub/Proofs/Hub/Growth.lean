import LeafHub.Proofs.Hub.StakeCells

namespace LeafHub

open Hub

namespace Pool

variable {α : Type}

theorem set_add_new (pool : Pool α) (first second : α) : (pool.add first).set pool.size second = pool.add second := by
  refine congrArg Pool.mk (Array.ext_getElem? fun index => ?_)
  simp only [add, size, Array.getElem?_setIfInBounds, Array.getElem?_push, Array.size_push]
  grind

theorem set_add_old {pool : Pool α} {id : Nat} (known : id < pool.size) (item other : α) :
    (pool.add item).set id other = (pool.set id other).add item := by
  refine congrArg Pool.mk (Array.ext_getElem? fun index => ?_)
  simp only [size] at known
  simp only [add, set, Array.getElem?_setIfInBounds, Array.getElem?_push, Array.size_push, Array.size_setIfInBounds]
  grind

end Pool

/-- What has been made beside what there was. -/
structure Growth where
  lines : List (Level × String)
  cells : Pool Cell
  flags : Pool UInt32
  items : Pool WorkItem
  variableList : List CellId
  settingList : List CellId

/-- More cells are registered. -/
def Growth.listing (growth : Growth) (catalogue : Catalogue) (ids : List CellId) : Growth :=
  match catalogue with
  | .runtime => { growth with variableList := growth.variableList ++ ids }
  | .persistent => { growth with settingList := growth.settingList ++ ids }

/-- A cell as its definition row has it. -/
def newborn (leaf : String) (row : Definition) (flags : FlagsId) (subscriber : Option ItemId) : Cell :=
  ⟨Cell.boundedName (Cell.prefixedName leaf row.name), row.start.kind, .ofValue flags row.start, subscriber⟩

namespace Hub

/-- The hub with other cells, event objects, items and lists, and more lines in the log. -/
def grow (hub : Hub) (growth : Growth) : Hub :=
  { hub.withLines growth.lines with
    cells := growth.cells
    flags := growth.flags
    items := growth.items
    variableList := growth.variableList
    settingList := growth.settingList }

theorem grow_self (hub : Hub) :
    hub.grow ⟨[], hub.cells, hub.flags, hub.items, hub.variableList, hub.settingList⟩ = hub := by
  simp [grow, withLines]

theorem grow_withLines (hub : Hub) (lines : List (Level × String)) (growth : Growth) :
    (hub.withLines lines).grow growth = hub.grow { growth with lines := lines ++ growth.lines } := by
  simp [grow, withLines]

section Steps

variable {hub : Hub} {lines : List (Level × String)} {cells : Pool Cell} {flags : Pool UInt32} {items : Pool WorkItem}
  {variableIds settingIds : List CellId}

theorem grow_log (growth : Growth) (level : Level) (line : String) : (log level line).run (hub.grow growth) =
    ((), hub.grow { growth with lines := growth.lines ++ [(level, line)] }) := by
  show ((), { hub.grow growth with journal := (hub.grow growth).journal.push (.log level line) }) = _
  simp [grow, withLines]

theorem grow_newCell (name : String) (initial : Value) : ∃ more,
    (newCell name initial).run (hub.grow ⟨lines, cells, flags, items, variableIds, settingIds⟩) =
      (cells.size, hub.grow ⟨more, cells.add ⟨Cell.boundedName name, initial.kind, .ofValue flags.size initial, none⟩,
        match initial with
        | .event bits => flags.add bits
        | _ => flags, items, variableIds, settingIds⟩) := by
  have made (lines : List (Level × String)) : (do
      let flags ← match initial with
        | .event bits => newFlags bits
        | _ => pure 0
      let hub ← get
      set { hub with cells := hub.cells.add ⟨Cell.boundedName name, initial.kind, .ofValue flags initial, none⟩ }
      return hub.cells.size : Act CellId).run (hub.grow ⟨lines, cells, flags, items, variableIds, settingIds⟩) =
        (cells.size, hub.grow ⟨lines, cells.add ⟨Cell.boundedName name, initial.kind, .ofValue flags.size initial, none⟩,
          match initial with
          | .event bits => flags.add bits
          | _ => flags, items, variableIds, settingIds⟩) := by
    cases initial <;> rfl
  unfold newCell
  dsimp only
  split
  · rw [StateT.run_bind, grow_log]
    exact ⟨_, made _⟩
  · exact ⟨_, made _⟩

theorem grow_newDefinedFor (leaf : String) (row : Definition) : ∃ more,
    (newDefinedFor leaf row).run (hub.grow ⟨lines, cells, flags, items, variableIds, settingIds⟩) =
      (cells.size, hub.grow ⟨more, cells.add (newborn leaf row flags.size none), match row.start with
        | .event bits => flags.add bits
        | _ => flags, items, variableIds, settingIds⟩) :=
  grow_newCell (Cell.prefixedName leaf row.name) row.start

/-- An event cell brings its event object along. -/
theorem grow_eventFor (leaf : String) (row : Definition) {bits : UInt32} (event : row.start = .event bits) : ∃ more,
    (newDefinedFor leaf row).run (hub.grow ⟨lines, cells, flags, items, variableIds, settingIds⟩) =
      (cells.size, hub.grow ⟨more, cells.add (newborn leaf row flags.size none), flags.add bits, items, variableIds,
        settingIds⟩) := by
  obtain ⟨more, made⟩ := grow_newDefinedFor leaf row
  rw [event] at made
  exact ⟨more, made⟩

theorem grow_cellFor (leaf : String) (row : Definition) (plain : row.start.kind ≠ .event) : ∃ more,
    (newDefinedFor leaf row).run (hub.grow ⟨lines, cells, flags, items, variableIds, settingIds⟩) =
      (cells.size, hub.grow ⟨more, cells.add (newborn leaf row 0 none), flags, items, variableIds, settingIds⟩) := by
  obtain ⟨more, made⟩ := grow_newDefinedFor leaf row
  unfold newborn at made ⊢
  refine ⟨more, made.trans ?_⟩
  cases start : row.start with
  | event bits =>
    rw [start] at plain
    exact absurd rfl plain
  | _ => rfl

theorem grow_registerFrom (catalogue : Catalogue) (total : Nat) (ids : List CellId) (index : Nat) (growth : Growth) :
    ∃ more, (registerFrom catalogue total index ids).run (hub.grow growth) =
      ((), hub.grow ({ growth with lines := more }.listing catalogue ids)) := by
  induction ids generalizing index growth with
  | nil =>
    refine ⟨growth.lines, ?_⟩
    cases catalogue <;> simp only [registerFrom, Growth.listing, List.append_nil] <;> rfl
  | cons id rest ih =>
    have entered (line : String) (lines : List (Level × String)) : ∃ more, (do
        log .debug line
        append catalogue id
        registerFrom catalogue total (index + 1) rest : Act Unit).run (hub.grow { growth with lines }) =
          ((), hub.grow ({ growth with lines := more }.listing catalogue (id :: rest))) := by
      obtain ⟨more, later⟩ :=
        ih (index + 1) (Growth.listing { growth with lines := lines ++ [(Level.debug, line)] } catalogue [id])
      refine ⟨more, ?_⟩
      rw [StateT.run_bind, grow_log]
      refine Eq.trans ?_ (later.trans ?_)
      · cases catalogue <;> rfl
      · cases catalogue <;> simp [Growth.listing]
    unfold registerFrom
    simp only [StateT.run_bind, StateT.run_get, pure_bind]
    split
    · simp only [StateT.run_bind, grow_log]
      exact entered _ _
    · exact entered _ growth.lines

theorem grow_registerSettings (ids : List CellId) : ∃ more,
    (registerSettings ids).run (hub.grow ⟨lines, cells, flags, items, variableIds, settingIds⟩) =
      ((), hub.grow ⟨more, cells, flags, items, variableIds, settingIds ++ ids⟩) := by
  unfold registerSettings
  rw [StateT.run_bind, grow_log]
  exact grow_registerFrom .persistent ids.length ids 0 _

theorem grow_registerVariables (ids : List CellId) : ∃ more,
    (registerVariables ids).run (hub.grow ⟨lines, cells, flags, items, variableIds, settingIds⟩) =
      ((), hub.grow ⟨more, cells, flags, items, variableIds ++ ids, settingIds⟩) :=
  grow_registerFrom .runtime ids.length ids 0 _

theorem grow_newItem (item : WorkItem) :
    (newItem item).run (hub.grow ⟨lines, cells, flags, items, variableIds, settingIds⟩) =
      (items.size, hub.grow ⟨lines, cells, flags, items.add item, variableIds, settingIds⟩) := rfl

theorem grow_subscribe {id : CellId} {leaf : String} {row : Definition} {own : FlagsId}
    (held : cells.get id = newborn leaf row own none) (item : ItemId) :
    (subscribe id item).run.run (hub.grow ⟨lines, cells, flags, items, variableIds, settingIds⟩) =
      (.ok (), hub.grow ⟨lines, cells.set id (newborn leaf row own (some item)), flags, items, variableIds,
        settingIds⟩) := by
  have same : (hub.grow ⟨lines, cells, flags, items, variableIds, settingIds⟩).cell id = newborn leaf row own none := held
  unfold subscribe
  rw [Attempt.run_bind, Attempt.run_get]
  dsimp only
  rw [same]
  rfl

end Steps

/-- The cells that an LED gets when they are made next. -/
def nextLed (hub : Hub) : LedCells where
  ok := hub.cells.size + 1
  on := hub.cells.size + 2
  blinks := hub.cells.size + 3
  duty := hub.cells.size

theorem le_of_mem_nextLed {hub : Hub} {id : CellId}
    (member : id ∈ [hub.nextLed.ok, hub.nextLed.on, hub.nextLed.blinks, hub.nextLed.duty]) : hub.cells.size ≤ id := by
  simp only [nextLed, List.mem_cons, List.not_mem_nil, or_false] at member
  rcases member with rfl | rfl | rfl | rfl
  · exact Nat.le_add_right _ _
  · exact Nat.le_add_right _ _
  · exact Nat.le_add_right _ _
  · exact Nat.le_refl _

/-- What the first init of an LED makes. Both cells that the pin depends on have the item for their subscriber. -/
def ledGrowth (hub : Hub) (leaf : LeafId) (lines : List (Level × String)) : Growth where
  lines
  cells :=
    let name := (hub.leaf leaf).name
    let change := hub.items.size
    (((hub.cells.add (newborn name ledDuty 0 (some change))).add (newborn name ledOk 0 none)).add
      (newborn name ledOn 0 (some change))).add (newborn name ledBlinks 0 none)
  flags := hub.flags
  items := hub.items.add ⟨"led_change", .ledChange leaf, ownQueue⟩
  variableList := hub.variableList ++ [hub.nextLed.ok, hub.nextLed.on, hub.nextLed.blinks]
  settingList := hub.settingList ++ [hub.nextLed.duty]

theorem run_installLed (hub : Hub) (leaf : LeafId) (state : LedState) : ∃ lines, (installLed leaf state).run.run hub =
    (.ok (), ((setContext leaf (.led { state with cells := some hub.nextLed })).run (hub.grow (hub.ledGrowth leaf lines))).2) := by
  unfold installLed ledGrowth
  rw [Attempt.run_bind, Attempt.run_get]
  dsimp only
  generalize (hub.leaf leaf).name = name
  obtain ⟨lines, duty⟩ := grow_cellFor name ledDuty (by decide)
  rw [grow_self hub] at duty
  obtain ⟨lines, ok⟩ := grow_cellFor name ledOk (by decide)
  obtain ⟨lines, on⟩ := grow_cellFor name ledOn (by decide)
  obtain ⟨lines, blinks⟩ := grow_cellFor name ledBlinks (by decide)
  obtain ⟨lines, settings⟩ := grow_registerSettings [hub.cells.size]
  obtain ⟨lines, shown⟩ := grow_registerVariables _
  rw [Attempt.run_lift_of duty, Attempt.run_lift_of ok, Attempt.run_lift_of on, Attempt.run_lift_of blinks,
    Attempt.run_lift_of settings, Attempt.run_lift_of shown, Attempt.run_lift_of (grow_newItem _)]
  clear duty ok on blinks settings shown
  simp only [Pool.size_add]
  have on : ((((hub.cells.add (newborn name ledDuty 0 none)).add (newborn name ledOk 0 none)).add
      (newborn name ledOn 0 none)).add (newborn name ledBlinks 0 none)).get (hub.cells.size + 1 + 1) =
        newborn name ledOn 0 none := by
    simp [Pool.get_add]
  rw [Attempt.run_bind_of (grow_subscribe on _), Pool.set_add_old (by simp)]
  have heard := Pool.set_add_new ((hub.cells.add (newborn name ledDuty 0 none)).add (newborn name ledOk 0 none))
    (newborn name ledOn 0 none) (newborn name ledOn 0 (some hub.items.size))
  simp only [Pool.size_add] at heard
  rw [heard]
  have duty : ((((hub.cells.add (newborn name ledDuty 0 none)).add (newborn name ledOk 0 none)).add
      (newborn name ledOn 0 (some hub.items.size))).add (newborn name ledBlinks 0 none)).get hub.cells.size =
        newborn name ledDuty 0 none := by
    rw [Pool.get_add_old (by simp only [Pool.size_add]; omega), Pool.get_add_old (by simp only [Pool.size_add]; omega),
      Pool.get_add_old (by simp), Pool.get_add_new]
  rw [Attempt.run_bind_of (grow_subscribe duty _), Pool.set_add_old (by simp only [Pool.size_add]; omega),
    Pool.set_add_old (by simp only [Pool.size_add]; omega), Pool.set_add_old (by simp), Pool.set_add_new]
  exact ⟨lines, rfl⟩

/-- The cells and the item that a keypad gets when they are made next. -/
def nextKeypad (hub : Hub) : KeypadCells where
  ok := hub.cells.size + 2
  pins := hub.cells.size + 3
  event := hub.cells.size + 4
  addr := hub.cells.size
  interval := hub.cells.size + 1
  scan := hub.items.size

theorem le_of_mem_nextKeypad {hub : Hub} {id : CellId} (member : id ∈ [hub.nextKeypad.ok, hub.nextKeypad.pins,
    hub.nextKeypad.event, hub.nextKeypad.addr, hub.nextKeypad.interval]) : hub.cells.size ≤ id := by
  simp only [nextKeypad, List.mem_cons, List.not_mem_nil, or_false] at member
  rcases member with rfl | rfl | rfl | rfl | rfl
  · exact Nat.le_add_right _ _
  · exact Nat.le_add_right _ _
  · exact Nat.le_add_right _ _
  · exact Nat.le_refl _
  · exact Nat.le_add_right _ _

/-- What the first init of a keypad makes. Nobody listens to its cells. -/
def keypadGrowth (hub : Hub) (leaf : LeafId) (lines : List (Level × String)) : Growth where
  lines
  cells :=
    let name := (hub.leaf leaf).name
    ((((hub.cells.add (newborn name keypadAddr 0 none)).add (newborn name keypadInterval 0 none)).add
      (newborn name keypadOk 0 none)).add (newborn name keypadPins 0 none)).add
      (newborn name keypadEvent hub.flags.size none)
  flags := hub.flags.add 0
  items := hub.items.add ⟨"kp_scan", .keypadScan leaf, ownQueue⟩
  variableList := hub.variableList ++ [hub.nextKeypad.ok, hub.nextKeypad.pins, hub.nextKeypad.event]
  settingList := hub.settingList ++ [hub.nextKeypad.addr, hub.nextKeypad.interval]

theorem run_installKeypad (hub : Hub) (leaf : LeafId) (state : KeypadState) : ∃ lines,
    ((installKeypad leaf state).run hub).2 = ((setContext leaf (.keypad { state with cells := some hub.nextKeypad })).run
      (hub.grow (hub.keypadGrowth leaf lines))).2 := by
  unfold installKeypad keypadGrowth
  rw [Act.run_bind_of (Act.run_get hub)]
  dsimp only
  generalize (hub.leaf leaf).name = name
  obtain ⟨lines, addr⟩ := grow_cellFor name keypadAddr (by decide)
  rw [grow_self hub] at addr
  obtain ⟨lines, interval⟩ := grow_cellFor name keypadInterval (by decide)
  obtain ⟨lines, ok⟩ := grow_cellFor name keypadOk (by decide)
  obtain ⟨lines, pins⟩ := grow_cellFor name keypadPins (by decide)
  obtain ⟨lines, event⟩ := grow_eventFor name keypadEvent rfl
  obtain ⟨lines, settings⟩ := grow_registerSettings _
  obtain ⟨lines, shown⟩ := grow_registerVariables _
  rw [Act.run_bind_of addr, Act.run_bind_of interval, Act.run_bind_of ok, Act.run_bind_of pins, Act.run_bind_of event,
    Act.run_bind_of settings, Act.run_bind_of shown, Act.run_bind_of (grow_newItem _)]
  simp only [Pool.size_add]
  exact ⟨lines, rfl⟩

/-- Whatever was there is as it was, and what is new is for the leaf and knows nothing that was there. -/
structure Extends (hub : Hub) (leaf : LeafId) (growth : Growth) : Prop where
  size : hub.cells.size ≤ growth.cells.size
  cells : ∀ id < hub.cells.size, growth.cells.get id = hub.cells.get id
  flags : ∀ id < hub.flags.size, growth.flags.get id = hub.flags.get id
  items : ∀ id < hub.items.size, growth.items.get id = hub.items.get id
  more : hub.items.size ≤ growth.items.size
  handler : ∀ id, hub.items.size ≤ id → id < growth.items.size → (growth.items.get id).handler.leaf? = some leaf
  heard : ∀ id item, hub.cells.size ≤ id → (growth.cells.get id).subscriber = some item →
    hub.items.size ≤ item ∧ item < growth.items.size
  settings : ∀ id ∈ growth.settingList, id ∈ hub.settingList ∨ hub.cells.size ≤ id

/-- What was in a cell is still in it. -/
theorem Extends.value {hub : Hub} {leaf : LeafId} {growth : Growth} (grows : hub.Extends leaf growth)
    (sound : hub.WellFormed) {id : CellId} (known : id < hub.cells.size) : (hub.grow growth).value id = hub.value id := by
  have held : (hub.grow growth).cell id = hub.cell id := grows.cells id known
  rw [Hub.value, Hub.value, held]
  cases has : (hub.cell id).payload.flags? with
  | none => exact Payload.value_of_no_flags has _ _
  | some flags => exact congrArg (Payload.value · _) (grows.flags flags (sound.known id flags has))

theorem leaf?_of_added {hub : Hub} {leaf : LeafId} {item : WorkItem} (handler : item.handler.leaf? = some leaf) (id : ItemId)
    (new : hub.items.size ≤ id) (known : id < (hub.items.add item).size) :
    ((hub.items.add item).get id).handler.leaf? = some leaf := by
  rw [Pool.get_add, if_pos (Pool.eq_size_of_new new known)]
  exact handler

theorem extends_led (hub : Hub) (leaf : LeafId) (lines : List (Level × String)) :
    hub.Extends leaf (hub.ledGrowth leaf lines) where
  size := by
    simp only [ledGrowth, Pool.size_add]
    omega
  cells := fun id known => by
    unfold ledGrowth
    dsimp only
    rw [Pool.get_add_old (by simp only [Pool.size_add]; omega), Pool.get_add_old (by simp only [Pool.size_add]; omega),
      Pool.get_add_old (by simp only [Pool.size_add]; omega),
      Pool.get_add_old known]
  flags := fun _ _ => rfl
  items := fun id known => Pool.get_add_old known _
  more := by simp [ledGrowth]
  handler := leaf?_of_added rfl
  heard := fun id item new subscriber => by
    have made : hub.items.size < (hub.ledGrowth leaf lines).items.size := by simp [ledGrowth]
    simp only [ledGrowth, Pool.get_add, Pool.size_add] at subscriber
    split at subscriber
    · cases subscriber
    · split at subscriber
      · cases subscriber
        exact ⟨Nat.le_refl _, made⟩
      · split at subscriber
        · cases subscriber
        · split at subscriber
          · cases subscriber
            exact ⟨Nat.le_refl _, made⟩
          · exact absurd (known_of_attached subscriber) (Nat.not_lt.mpr new)
  settings := fun id member => by
    rcases List.mem_append.mp member with old | new
    · exact .inl old
    · exact .inr (Nat.le_of_eq (List.mem_singleton.mp new).symm)

/-- Nobody listens to what a keypad has made. -/
theorem subscriber_keypad {hub : Hub} {leaf : LeafId} {lines : List (Level × String)} {id : CellId}
    (new : hub.cells.size ≤ id) : ((hub.keypadGrowth leaf lines).cells.get id).subscriber = none := by
  simp only [keypadGrowth, Pool.get_add, Pool.size_add]
  iterate 5
    split
    · rfl
  exact subscriber_of_unknown new

theorem extends_keypad (hub : Hub) (leaf : LeafId) (lines : List (Level × String)) :
    hub.Extends leaf (hub.keypadGrowth leaf lines) where
  size := by
    simp only [keypadGrowth, Pool.size_add]
    omega
  cells := fun id known => by
    unfold keypadGrowth
    dsimp only
    rw [Pool.get_add_old (by simp only [Pool.size_add]; omega), Pool.get_add_old (by simp only [Pool.size_add]; omega),
      Pool.get_add_old (by simp only [Pool.size_add]; omega),
      Pool.get_add_old (by simp only [Pool.size_add]; omega), Pool.get_add_old known]
  flags := fun id known => Pool.get_add_old known _
  items := fun id known => Pool.get_add_old known _
  more := by simp [keypadGrowth]
  handler := leaf?_of_added rfl
  heard := fun id item new subscriber => by
    rw [subscriber_keypad new] at subscriber
    cases subscriber
  settings := fun id member => by
    rcases List.mem_append.mp member with old | new
    · exact .inl old
    · simp only [nextKeypad, List.mem_cons, List.not_mem_nil, or_false] at new
      rcases new with rfl | rfl
      · exact .inr (Nat.le_refl _)
      · exact .inr (Nat.le_succ _)

end Hub

namespace Stake

variable {stake : Stake} {hub : Hub} {other : LeafId}

/-- What is made for another leaf is new, and a stake is in what was there. -/
theorem respects_grow {growth : Growth} (apart : other ≠ stake.leaf) (grows : hub.Extends other growth)
    (sound : hub.WellFormed → (hub.grow growth).WellFormed) : stake.Respects hub (hub.grow growth) := by
  intro sole
  have cell {id : CellId} (known : id < hub.cells.size) : (hub.grow growth).cell id = hub.cell id := grows.cells id known
  have attached {item : ItemId} (known : item < hub.items.size) (id : CellId) :
      (hub.grow growth).Attached item id ↔ hub.Attached item id := by
    rcases Nat.lt_or_ge id hub.cells.size with old | new
    · rw [Attached, Attached, cell old]
    · refine iff_of_false (fun heard => ?_) fun heard => absurd (known_of_attached heard) (Nat.not_lt.mpr new)
      exact absurd (grows.heard id item new heard).1 (Nat.not_le.mpr known)
  constructor
  · refine
      { context := rfl
        leafClass := rfl
        pins := fun _ _ => rfl
        cells := fun id own => ?_
        items := fun item member => ?_
        continues :=
          { size := grows.size
            name := fun id known => by rw [cell known]
            kind := fun id known => by rw [cell known]
            flags := fun id known => by rw [cell known] }
        past := adds_of_lines (fun _ _ _ _ same => by cases same) rfl }
    · have known := (sole.cells id own).1
      exact ⟨cell known, grows.value sole.sound known⟩
    · have there := (sole.serves item member).known
      refine bides_of_same (grows.items item there) rfl (attached there) fun id heard => ?_
      rw [cell (known_of_attached heard)]
  · refine
      { known := sole.known
        sound := sound sole.sound
        cells := fun id own => ⟨Nat.lt_of_lt_of_le (sole.cells id own).1 grows.size, fun listed => ?_⟩
        named := fun id own => (cell (sole.cells id own).1).symm ▸ sole.named id own
        serves := fun item member => ?_
        clear := sole.clear }
    · rcases grows.settings id listed with old | new
      · exact (sole.cells id own).2 old
      · exact absurd (sole.cells id own).1 (Nat.not_lt.mpr new)
    · refine (sole.serves item member).of_items rfl grows.more grows.items fun new unknown known own => ?_
      -- a new item runs the other leaf
      have foreign := (grows.handler new unknown known).symm.trans own
      exact apart (Option.some.inj foreign)

/-- The first init of another LED. -/
theorem respects_installLed (apart : other ≠ stake.leaf) {state : LedState} (holds : hub.led? other = some state) :
    stake.Respects hub ((installLed other state).run.run hub).2 := by
  intro sole
  have recelled := frame_recelled.installLed other state hub
  obtain ⟨lines, installed⟩ := run_installLed hub other state
  rw [installed] at recelled ⊢
  have grown : stake.Respects hub (hub.grow (hub.ledGrowth other lines)) := by
    refine respects_grow apart (extends_led hub other lines) fun sound => ?_
    exact (recelled.keeps sound).1.of_same rfl rfl
  refine (passage_respects stake).trans grown (respects_setContext apart ?_) sole
  refine ⟨(sole.clear other _ apart (led?_eq_some.mp holds)).1, fun cells made id member own => ?_⟩
  cases made
  exact absurd (sole.cells id own).1 (Nat.not_lt.mpr (le_of_mem_nextLed member))

/-- The first init of another keypad. -/
theorem respects_installKeypad (apart : other ≠ stake.leaf) (state : KeypadState) :
    stake.Respects hub ((installKeypad other state).run hub).2 := by
  intro sole
  have recelled := frame_recelled.installKeypad other state hub
  obtain ⟨lines, installed⟩ := run_installKeypad hub other state
  rw [installed] at recelled ⊢
  have grown : stake.Respects hub (hub.grow (hub.keypadGrowth other lines)) := by
    refine respects_grow apart (extends_keypad hub other lines) fun sound => ?_
    exact (recelled.keeps sound).1.of_same rfl rfl
  refine (passage_respects stake).trans grown (respects_setContext apart fun cells made => ?_) sole
  cases made
  refine ⟨fun own => absurd (sole.serves _ own).known (Nat.lt_irrefl _), fun id member own => ?_⟩
  exact absurd (sole.cells id own).1 (Nat.not_lt.mpr (le_of_mem_nextKeypad member))

end Stake

end LeafHub
