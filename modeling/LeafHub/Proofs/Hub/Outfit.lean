import LeafHub.Proofs.Hub.FirstInit
import LeafHub.Proofs.Lifecycle.Operations

namespace LeafHub

/-- What the first init of a leaf makes. -/
inductive Outfit where
  | led (cells : LedCells)
  | keypad (cells : KeypadCells)
  deriving DecidableEq

namespace Outfit

/-- The cell that says whether the leaf has been configured. -/
def ok : Outfit → CellId
  | led cells => cells.ok
  | keypad cells => cells.ok

/-- The cells for each list, in their order, with the rows that define them. -/
def rows : Outfit → Catalogue → List (CellId × Definition)
  | led cells, .runtime => [(cells.ok, Hub.ledOk), (cells.on, Hub.ledOn), (cells.blinks, Hub.ledBlinks)]
  | led cells, .persistent => [(cells.duty, Hub.ledDuty)]
  | keypad cells, .runtime => [(cells.ok, Hub.keypadOk), (cells.pins, Hub.keypadPins), (cells.event, Hub.keypadEvent)]
  | keypad cells, .persistent => [(cells.addr, Hub.keypadAddr), (cells.interval, Hub.keypadInterval)]

/-- What the item does. -/
def work (leaf : LeafId) : Outfit → WorkItem
  | led _ => ⟨"led_change", .ledChange leaf, Hub.ownQueue⟩
  | keypad _ => ⟨"kp_scan", .keypadScan leaf, Hub.ownQueue⟩

/-- The leaf uses the item: an LED as a subscriber, a keypad for its scans. -/
def Uses (hub : Hub) (item : ItemId) : Outfit → Prop
  | led cells => (hub.cell cells.on).subscriber = some item ∧ (hub.cell cells.duty).subscriber = some item
  | keypad cells => cells.scan = item

end Outfit

/-- What a leaf of this context has been fitted out with. -/
def Context.outfit? : Context → Option Outfit
  | .led state => state.cells.map .led
  | .keypad state => state.cells.map .keypad
  | _ => none

/-- What a cell is called, what it holds and who listens to it. -/
def Cell.label (cell : Cell) : String × Kind × Option ItemId :=
  (cell.name, cell.kind, cell.subscriber)

namespace CommandTable

theorem names_replace (command : Command) (entries : List Command) :
    (replace command entries).map Command.name = entries.map Command.name := by
  induction entries with
  | nil => rfl
  | cons entry rest ih =>
    unfold replace
    split
    · rename_i same
      rw [List.map_cons, List.map_cons, same]
    · rw [List.map_cons, List.map_cons, ih]

theorem insertSorted_perm (command : Command) (entries : List Command) :
    (insertSorted command entries).Perm (command :: entries) := by
  induction entries with
  | nil => exact .refl _
  | cons entry rest ih =>
    unfold insertSorted
    split
    · exact .refl _
    · exact (ih.cons entry).trans (.swap command entry rest)

/-- A name that stands in a table at most once does so however often its command is added. -/
theorem count_insert {before after : CommandTable} {command : Command} (added : before.insert command = .ok after)
    {name : String} (once : before.names.count name ≤ 1) : after.names.count name ≤ 1 := by
  unfold insert at added
  split at added
  · cases added
    rw [names, names_replace]
    exact once
  · rename_i absent
    split at added
    · cases added
      have more := ((insertSorted_perm command before.entries).map Command.name).count_eq name
      rw [names, more, List.map_cons, List.count_cons]
      split
      · rename_i same
        have none : before.names.count name = 0 := by
          refine List.count_eq_zero_of_not_mem fun member => absent ?_
          obtain ⟨entry, there, named⟩ := List.mem_map.mp member
          rw [find?, List.find?_isSome]
          exact ⟨entry, there, decide_eq_true (named.trans (eq_of_beq same).symm)⟩
        exact Nat.le_of_eq (congrArg Nat.succ none)
      · exact once
    · cases added

end CommandTable

namespace Hub

variable {hub after : Hub} {leaf : LeafId}

/-- What the leaf has been fitted out with. -/
def outfit? (hub : Hub) (leaf : LeafId) : Option Outfit :=
  (hub.leaf leaf).context.bind Context.outfit?

theorem outfit?_of_leaves (leaves : after.leaves = hub.leaves) : after.outfit? leaf = hub.outfit? leaf := by
  rw [outfit?, outfit?, Hub.leaf, leaves]
  rfl

/-- A leaf is put back with what it has been fitted out with. -/
theorem outfit?_setLeaf {other : Leaf} {id : LeafId} (same : other.context.bind Context.outfit? = hub.outfit? id) :
    outfit? { hub with leaves := hub.leaves.set id other } leaf = hub.outfit? leaf := by
  rw [outfit?, Hub.leaf, Pool.get_set]
  split
  · rename_i here
    rw [here.1, same]
  · rfl

theorem outfit?_setContext (hub : Hub) (id other : LeafId) (context : Context) :
    ((setContext id context).run hub).2.outfit? other =
      if other = id ∧ id < hub.leaves.size then context.outfit? else hub.outfit? other := by
  have there : ((setContext id context).run hub).2.leaf other =
      if other = id ∧ id < hub.leaves.size then { hub.leaf id with context := some context } else hub.leaf other :=
    Pool.get_set _ _ _ _
  rw [outfit?, there]
  split <;> rfl

theorem outfit?_of_led {state : LedState} (holds : hub.led? leaf = some state) :
    hub.outfit? leaf = state.cells.map .led := by
  rw [outfit?, led?_eq_some.mp holds]
  rfl

theorem outfit?_of_keypad {state : KeypadState} (holds : hub.keypad? leaf = some state) :
    hub.outfit? leaf = state.cells.map .keypad := by
  rw [outfit?, keypad?_eq_some.mp holds]
  rfl

/-- The cells are registered, each once, under the names of their rows, and the item is there to run the leaf. -/
structure Fitted (hub : Hub) (leaf : LeafId) (outfit : Outfit) : Prop where
  known : ∀ catalogue, ∀ row ∈ outfit.rows catalogue, row.1 < hub.cells.size
  once : ∀ catalogue, ∀ row ∈ outfit.rows catalogue, (hub.listed catalogue).count row.1 = 1
  name : ∀ catalogue, ∀ row ∈ outfit.rows catalogue,
    (hub.cell row.1).name = Cell.boundedName (Cell.prefixedName (hub.leaf leaf).name row.2.name)
  kind : ∀ catalogue, ∀ row ∈ outfit.rows catalogue, (hub.cell row.1).kind = row.2.start.kind
  item : ∃ item < hub.items.size, outfit.Uses hub item ∧ hub.items.get item = outfit.work leaf

/-- The leaf is there, listed once at most, with one command at most, and has what it was fitted out with. -/
structure Tidy (hub : Hub) (leaf : LeafId) : Prop where
  known : leaf < hub.leaves.size
  listed : ∀ catalogue, ∀ id ∈ hub.listed catalogue, id < hub.cells.size
  once : hub.leafList.count leaf ≤ 1
  command : hub.commands.names.count (hub.leaf leaf).name ≤ 1
  fitted : ∀ outfit, hub.outfit? leaf = some outfit → hub.Fitted leaf outfit

/-- Whatever was there is still there, is called what it was called and is registered where it was. Only what is new is
registered behind that. -/
structure Retains (hub after : Hub) : Prop where
  leaves : hub.leaves.size ≤ after.leaves.size
  leaf : ∀ id < hub.leaves.size, (after.leaf id).name = (hub.leaf id).name ∧
    (after.leaf id).leafClass = (hub.leaf id).leafClass
  cells : hub.cells.size ≤ after.cells.size
  cell : ∀ id < hub.cells.size, (after.cell id).label = (hub.cell id).label
  items : hub.items.size ≤ after.items.size
  item : ∀ id < hub.items.size, after.items.get id = hub.items.get id
  listed : ∀ catalogue, ∃ new, after.listed catalogue = hub.listed catalogue ++ new ∧
    ∀ id ∈ new, hub.cells.size ≤ id ∧ id < after.cells.size
  once : ∀ id, hub.leafList.count id ≤ 1 → after.leafList.count id ≤ 1
  command : ∀ name, hub.commands.names.count name ≤ 1 → after.commands.names.count name ≤ 1

theorem passage_retains : Passage Retains where
  refl := fun hub =>
    { leaves := Nat.le_refl _
      leaf := fun _ _ => ⟨rfl, rfl⟩
      cells := Nat.le_refl _
      cell := fun _ _ => rfl
      items := Nat.le_refl _
      item := fun _ _ => rfl
      listed := fun catalogue => ⟨[], (List.append_nil _).symm, nofun⟩
      once := fun _ once => once
      command := fun _ once => once }
  trans := fun first second =>
    { leaves := Nat.le_trans first.leaves second.leaves
      leaf := fun id known => by
        obtain ⟨name, leafClass⟩ := second.leaf id (Nat.lt_of_lt_of_le known first.leaves)
        exact ⟨name.trans (first.leaf id known).1, leafClass.trans (first.leaf id known).2⟩
      cells := Nat.le_trans first.cells second.cells
      cell := fun id known => (second.cell id (Nat.lt_of_lt_of_le known first.cells)).trans (first.cell id known)
      items := Nat.le_trans first.items second.items
      item := fun id known => (second.item id (Nat.lt_of_lt_of_le known first.items)).trans (first.item id known)
      listed := fun catalogue => by
        obtain ⟨new, listed, fresh⟩ := first.listed catalogue
        obtain ⟨newer, later, fresher⟩ := second.listed catalogue
        refine ⟨new ++ newer, by rw [later, listed, List.append_assoc], fun id member => ?_⟩
        rcases List.mem_append.mp member with early | late
        · exact ⟨(fresh id early).1, Nat.lt_of_lt_of_le (fresh id early).2 second.cells⟩
        · exact ⟨Nat.le_trans first.cells (fresher id late).1, (fresher id late).2⟩
      once := fun id once => second.once id (first.once id once)
      command := fun name once => second.command name (first.command name once) }

/-- As `Retains`, and the leaf has what it had. -/
def StaysFitted (leaf : LeafId) (hub after : Hub) : Prop :=
  Retains hub after ∧ ∀ outfit, hub.outfit? leaf = some outfit → after.outfit? leaf = some outfit

/-- What may be done to a hub without putting the leaf out of order. -/
def KeepsTidy (leaf : LeafId) (hub after : Hub) : Prop :=
  hub.Tidy leaf → StaysFitted leaf hub after ∧ after.Tidy leaf

theorem passage_staysFitted (leaf : LeafId) : Passage (StaysFitted leaf) where
  refl := fun hub => ⟨passage_retains.refl hub, fun _ fitted => fitted⟩
  trans := fun first second =>
    ⟨passage_retains.trans first.1 second.1, fun outfit fitted => second.2 outfit (first.2 outfit fitted)⟩

theorem passage_keepsTidy (leaf : LeafId) : Passage (KeepsTidy leaf) :=
  (passage_staysFitted leaf).under fun hub => hub.Tidy leaf

namespace Retains

theorem count_listed (retains : hub.Retains after) (catalogue : Catalogue) {id : CellId} (known : id < hub.cells.size) :
    (after.listed catalogue).count id = (hub.listed catalogue).count id := by
  obtain ⟨new, listed, fresh⟩ := retains.listed catalogue
  have absent : id ∉ new := fun member => absurd known (Nat.not_lt.mpr (fresh id member).1)
  rw [listed, List.count_append, List.count_eq_zero_of_not_mem absent, Nat.add_zero]

theorem fitted (retains : hub.Retains after) (known : leaf < hub.leaves.size) {outfit : Outfit}
    (fitted : hub.Fitted leaf outfit) : after.Fitted leaf outfit := by
  have label {catalogue : Catalogue} {row : CellId × Definition} (member : row ∈ outfit.rows catalogue) :
      (after.cell row.1).label = (hub.cell row.1).label := retains.cell row.1 (fitted.known catalogue row member)
  obtain ⟨item, there, uses, work⟩ := fitted.item
  exact
    { known := fun catalogue row member => Nat.lt_of_lt_of_le (fitted.known catalogue row member) retains.cells
      once := fun catalogue row member => by
        rw [retains.count_listed catalogue (fitted.known catalogue row member)]
        exact fitted.once catalogue row member
      name := fun catalogue row member => by
        rw [(retains.leaf leaf known).1, ← fitted.name catalogue row member]
        exact congrArg Prod.fst (label member)
      kind := fun catalogue row member =>
        (congrArg (fun label => label.2.1) (label member)).trans (fitted.kind catalogue row member)
      item := by
        refine ⟨item, Nat.lt_of_lt_of_le there retains.items, ?_, (retains.item item there).trans work⟩
        cases outfit with
        | led cells =>
          have heard (catalogue : Catalogue) (row : CellId × Definition) (member : row ∈ (Outfit.led cells).rows catalogue) :
              (after.cell row.1).subscriber = (hub.cell row.1).subscriber :=
            congrArg (fun label => label.2.2) (label member)
          exact ⟨(heard .runtime (cells.on, ledOn) (by simp [Outfit.rows])).trans uses.1,
            (heard .persistent (cells.duty, ledDuty) (by simp [Outfit.rows])).trans uses.2⟩
        | keypad cells => exact uses }

/-- A leaf that is newly fitted out must be so completely. -/
theorem keepsTidy (retains : hub.Retains after)
    (stays : ∀ outfit, hub.outfit? leaf = some outfit → after.outfit? leaf = some outfit)
    (complete : hub.Tidy leaf → ∀ outfit, after.outfit? leaf = some outfit →
      hub.outfit? leaf = some outfit ∨ after.Fitted leaf outfit) : KeepsTidy leaf hub after := by
  intro tidy
  refine ⟨⟨retains, stays⟩, ?_⟩
  exact
    { known := Nat.lt_of_lt_of_le tidy.known retains.leaves
      listed := fun catalogue id member => by
        obtain ⟨new, listed, fresh⟩ := retains.listed catalogue
        rw [listed] at member
        rcases List.mem_append.mp member with old | added
        · exact Nat.lt_of_lt_of_le (tidy.listed catalogue id old) retains.cells
        · exact (fresh id added).2
      once := retains.once leaf tidy.once
      command := by
        rw [(retains.leaf leaf tidy.known).1]
        exact retains.command _ tidy.command
      fitted := fun outfit has => by
        rcases complete tidy outfit has with had | made
        · exact retains.fitted tidy.known (tidy.fitted outfit had)
        · exact made }

theorem steady (retains : hub.Retains after) (same : after.outfit? leaf = hub.outfit? leaf) : KeepsTidy leaf hub after :=
  retains.keepsTidy (fun _ has => same.trans has) fun _ _ has => .inl (same.symm.trans has)

end Retains

section Steps

variable {id : LeafId}

/-- Steps that add nothing and touch no label. -/
theorem retains_of_labels (leaves : after.leaves = hub.leaves) (cells : after.cells.size = hub.cells.size)
    (label : ∀ id, (after.cell id).label = (hub.cell id).label) (items : after.items = hub.items)
    (listed : ∀ catalogue, after.listed catalogue = hub.listed catalogue) (leafList : after.leafList = hub.leafList)
    (commands : after.commands = hub.commands) : hub.Retains after where
  leaves := Nat.le_of_eq (by rw [leaves])
  leaf := fun id _ => by
    rw [Hub.leaf, leaves]
    exact ⟨rfl, rfl⟩
  cells := Nat.le_of_eq cells.symm
  cell := fun id _ => label id
  items := Nat.le_of_eq (by rw [items])
  item := fun id _ => by rw [items]
  listed := fun catalogue => ⟨[], by rw [listed, List.append_nil], nofun⟩
  once := fun id once => by rwa [leafList]
  command := fun name once => by rwa [commands]

theorem keepsTidy_of_labels (leaves : after.leaves = hub.leaves) (cells : after.cells.size = hub.cells.size)
    (label : ∀ id, (after.cell id).label = (hub.cell id).label) (items : after.items = hub.items)
    (listed : ∀ catalogue, after.listed catalogue = hub.listed catalogue) (leafList : after.leafList = hub.leafList)
    (commands : after.commands = hub.commands) : KeepsTidy leaf hub after := by
  exact (retains_of_labels leaves cells label items listed leafList commands).steady (outfit?_of_leaves leaves)

theorem Requeued.keepsTidy (requeued : hub.Requeued after) : KeepsTidy leaf hub after := by
  obtain ⟨queues, journal, rfl⟩ := requeued
  exact keepsTidy_of_labels rfl rfl (fun _ => rfl) rfl (fun _ => rfl) rfl rfl

theorem keepsTidy_aside {flags : Pool UInt32} {queues : Pool WorkQueue} {pins : Directory Pin} {buses : Directory Bus}
    {media : Directory Medium} {clock : Nat} {journal : Array Happening} :
    KeepsTidy leaf hub { hub with flags, queues, pins, buses, media, clock, journal } :=
  keepsTidy_of_labels rfl rfl (fun _ => rfl) rfl (fun _ => rfl) rfl rfl

/-- A cell changes what it holds. -/
theorem keepsTidy_payload (hub : Hub) (id : CellId) (payload : Payload) :
    KeepsTidy leaf hub { hub with cells := hub.cells.set id { hub.cell id with payload } } := by
  refine keepsTidy_of_labels rfl (Pool.size_set _ _ _) (fun other => ?_) rfl (fun _ => rfl) rfl rfl
  show ((hub.cells.set id _).get other).label = (hub.cells.get other).label
  rw [Pool.get_set]
  split
  · rename_i here
    rw [here.1]
    rfl
  · rfl

/-- A leaf changes its flags, its owners or what it carries beside its outfit. -/
theorem keepsTidy_setLeaf {other : Leaf} (name : other.name = (hub.leaf id).name)
    (leafClass : other.leafClass = (hub.leaf id).leafClass)
    (same : other.context.bind Context.outfit? = hub.outfit? id) :
    KeepsTidy leaf hub { hub with leaves := hub.leaves.set id other } := by
  have part {β : Type} (part : Leaf → β) (same : part other = part (hub.leaf id)) (leaf : LeafId) :
      part ((hub.leaves.set id other).get leaf) = part (hub.leaf leaf) := by
    rw [Pool.get_set]
    split
    · rename_i here
      rw [here.1, same]
    · rfl
  refine Retains.steady ?_ (outfit?_setLeaf same)
  exact
    { passage_retains.refl hub with
      leaves := Nat.le_of_eq (Pool.size_set _ _ _).symm
      leaf := fun leaf _ => ⟨part Leaf.name name leaf, part Leaf.leafClass leafClass leaf⟩ }

/-- A hub has grown by an outfit: all its cells are new, made from their rows and registered in their order. -/
structure GrowsBy (hub : Hub) (leaf : LeafId) (outfit : Outfit) (growth : Growth) : Prop
    extends hub.Extends leaf growth where
  listed : ∀ catalogue, (hub.grow growth).listed catalogue = hub.listed catalogue ++ (outfit.rows catalogue).map Prod.fst
  apart : ∀ catalogue, ((outfit.rows catalogue).map Prod.fst).Nodup
  new : ∀ catalogue, ∀ row ∈ outfit.rows catalogue, hub.cells.size ≤ row.1 ∧ row.1 < growth.cells.size
  made : ∀ catalogue, ∀ row ∈ outfit.rows catalogue, ∃ flags subscriber,
    growth.cells.get row.1 = newborn (hub.leaf leaf).name row.2 flags subscriber
  item : ∃ item < growth.items.size, outfit.Uses (hub.grow growth) item ∧ growth.items.get item = outfit.work leaf

namespace GrowsBy

variable {outfit : Outfit} {growth : Growth} (grows : hub.GrowsBy id outfit growth)

include grows

theorem retains : hub.Retains (hub.grow growth) where
  leaves := Nat.le_refl _
  leaf := fun _ _ => ⟨rfl, rfl⟩
  cells := grows.size
  cell := fun id known => congrArg Cell.label (grows.cells id known)
  items := grows.more
  item := grows.items
  listed := fun catalogue => by
    refine ⟨_, grows.listed catalogue, fun cell member => ?_⟩
    obtain ⟨row, there, rfl⟩ := List.mem_map.mp member
    exact grows.new catalogue row there
  once := fun _ once => once
  command := fun _ once => once

theorem fitted (known : ∀ catalogue, ∀ cell ∈ hub.listed catalogue, cell < hub.cells.size) :
    (hub.grow growth).Fitted id outfit where
  known := fun catalogue row member => (grows.new catalogue row member).2
  once := fun catalogue row member => by
    have old : row.1 ∉ hub.listed catalogue := fun there =>
      absurd (known catalogue row.1 there) (Nat.not_lt.mpr (grows.new catalogue row member).1)
    rw [grows.listed, List.count_append, List.count_eq_zero_of_not_mem old, Nat.zero_add]
    exact List.count_eq_one_of_mem (grows.apart catalogue) (List.mem_map_of_mem member)
  name := fun catalogue row member => by
    obtain ⟨flags, subscriber, made⟩ := grows.made catalogue row member
    exact congrArg Cell.name made
  kind := fun catalogue row member => by
    obtain ⟨flags, subscriber, made⟩ := grows.made catalogue row member
    exact congrArg Cell.kind made
  item := grows.item

/-- The first init of any leaf fits that leaf out and leaves every other one alone. -/
theorem keepsTidy {context : Context} (bare : hub.outfit? id = none) (carries : context.outfit? = some outfit) :
    KeepsTidy leaf hub ((setContext id context).run (hub.grow growth)).2 := by
  have set : ((setContext id context).run (hub.grow growth)).2 =
      { hub.grow growth with leaves := hub.leaves.set id { hub.leaf id with context := some context } } := rfl
  have kept (other : LeafId) : (((setContext id context).run (hub.grow growth)).2.leaf other).name = (hub.leaf other).name ∧
      (((setContext id context).run (hub.grow growth)).2.leaf other).leafClass = (hub.leaf other).leafClass := by
    rw [set, Hub.leaf, Pool.get_set]
    split
    · rename_i here
      rw [here.1]
      exact ⟨rfl, rfl⟩
    · exact ⟨rfl, rfl⟩
  have has (other : LeafId) : ((setContext id context).run (hub.grow growth)).2.outfit? other =
      if other = id ∧ id < hub.leaves.size then some outfit else hub.outfit? other :=
    carries ▸ outfit?_setContext (hub.grow growth) id other context
  have retains : hub.Retains ((setContext id context).run (hub.grow growth)).2 :=
    { grows.retains with
      leaves := Nat.le_of_eq (by rw [set, Pool.size_set])
      leaf := fun other _ => kept other }
  refine retains.keepsTidy (fun own had => ?_) fun tidy own having => ?_
  · rw [has]
    split
    · rename_i here
      rw [here.1, bare] at had
      cases had
    · exact had
  · rw [has] at having
    split at having
    · rename_i here
      obtain ⟨rfl, _⟩ := here
      cases having
      have fitted := grows.fitted tidy.listed
      exact .inr { fitted with name := fun catalogue row member => (kept leaf).1.symm ▸ fitted.name catalogue row member }
    · exact .inl having

end GrowsBy

theorem growsBy_led (hub : Hub) (id : LeafId) (lines : List (Level × String)) :
    hub.GrowsBy id (.led hub.nextLed) (hub.ledGrowth id lines) where
  toExtends := extends_led hub id lines
  listed := fun catalogue => by cases catalogue <;> rfl
  apart := fun catalogue => by cases catalogue <;> simp [Outfit.rows, nextLed]
  new := fun catalogue row member => by
    have size : (hub.ledGrowth id lines).cells.size = hub.cells.size + 4 := by simp [ledGrowth]
    rw [size]
    cases catalogue <;> simp only [Outfit.rows, List.mem_cons, List.not_mem_nil, or_false] at member
    · rcases member with rfl | rfl | rfl <;> simp [nextLed]
    · obtain rfl := member
      simp [nextLed]
  made := fun catalogue row member => by
    cases catalogue <;> simp only [Outfit.rows, List.mem_cons, List.not_mem_nil, or_false] at member
    · rcases member with rfl | rfl | rfl
      · exact ⟨0, none, by simp [ledGrowth, nextLed, Pool.get_add]⟩
      · exact ⟨0, some hub.items.size, by simp [ledGrowth, nextLed, Pool.get_add]⟩
      · exact ⟨0, none, by simp [ledGrowth, nextLed, Pool.get_add]⟩
    · obtain rfl := member
      exact ⟨0, some hub.items.size, by simp [ledGrowth, nextLed, Pool.get_add, Nat.add_assoc]⟩
  item := by
    refine ⟨hub.items.size, by simp [ledGrowth], ⟨?_, ?_⟩, Pool.get_add_new _ _⟩
    · exact congrArg Cell.subscriber (@on_made hub id "" false lines)
    · exact congrArg Cell.subscriber (@duty_made hub id "" false lines)

theorem growsBy_keypad (hub : Hub) (id : LeafId) (lines : List (Level × String)) :
    hub.GrowsBy id (.keypad hub.nextKeypad) (hub.keypadGrowth id lines) where
  toExtends := extends_keypad hub id lines
  listed := fun catalogue => by cases catalogue <;> rfl
  apart := fun catalogue => by cases catalogue <;> simp [Outfit.rows, nextKeypad]
  new := fun catalogue row member => by
    have size : (hub.keypadGrowth id lines).cells.size = hub.cells.size + 5 := by simp [keypadGrowth]
    rw [size]
    cases catalogue <;> simp only [Outfit.rows, List.mem_cons, List.not_mem_nil, or_false] at member
    · rcases member with rfl | rfl | rfl <;> simp [nextKeypad]
    · rcases member with rfl | rfl <;> simp [nextKeypad]
  made := fun catalogue row member => by
    cases catalogue <;> simp only [Outfit.rows, List.mem_cons, List.not_mem_nil, or_false] at member
    · rcases member with rfl | rfl | rfl
      · exact ⟨0, none, by simp [keypadGrowth, nextKeypad, Pool.get_add]⟩
      · exact ⟨0, none, pins_made lines⟩
      · exact ⟨hub.flags.size, none, event_made lines⟩
    · rcases member with rfl | rfl
      · exact ⟨0, none, addr_made lines⟩
      · exact ⟨0, none, by simp [keypadGrowth, nextKeypad, Pool.get_add, Nat.add_assoc]⟩
  item := ⟨hub.items.size, by simp [keypadGrowth], rfl, Pool.get_add_new _ _⟩

theorem keepsTidy_installLed {id : LeafId} {state : LedState} (holds : hub.led? id = some state) (bare : state.cells = none) :
    KeepsTidy leaf hub ((installLed id state).run.run hub).2 := by
  obtain ⟨lines, installed⟩ := run_installLed hub id state
  rw [installed]
  refine (growsBy_led hub id lines).keepsTidy ?_ rfl
  rw [outfit?_of_led holds, bare]
  rfl

theorem keepsTidy_installKeypad {id : LeafId} {state : KeypadState} (holds : hub.keypad? id = some state)
    (bare : state.cells = none) : KeepsTidy leaf hub ((installKeypad id state).run hub).2 := by
  obtain ⟨lines, installed⟩ := run_installKeypad hub id state
  rw [installed]
  refine (growsBy_keypad hub id lines).keepsTidy ?_ rfl
  rw [outfit?_of_keypad holds, bare]
  rfl

theorem listing_keepsTidy (leaf : LeafId) : Listing (KeepsTidy leaf) where
  toPassage := passage_keepsTidy leaf
  logged := fun level line hub => (requeued_log level line hub).keepsTidy
  emptied := fun hub => Retains.steady { passage_retains.refl hub with once := fun _ _ => Nat.zero_le _ } rfl
  identified := fun hub _ => Retains.steady { passage_retains.refl hub with } rfl
  classed := fun hub _ => Retains.steady { passage_retains.refl hub with } rfl
  joined := fun hub id apart => by
    refine Retains.steady { passage_retains.refl hub with once := fun other once => ?_ } rfl
    rw [List.count_append, List.count_singleton]
    split
    · rename_i same
      exact Nat.le_of_eq (by rw [← eq_of_beq same, List.count_eq_zero_of_not_mem apart])
    · exact once
  bound := fun hub command commands inserted =>
    Retains.steady { passage_retains.refl hub with command := fun _ => CommandTable.count_insert inserted } rfl

theorem conduct_keepsTidy (leaf : LeafId) : Conduct (KeepsTidy leaf) where
  toPassage := passage_keepsTidy leaf
  noted := fun hub happening _ => (requeued_note happening hub).keepsTidy
  told := fun id happening _ hub => (requeued_told id happening hub).keepsTidy
  filled := fun hub id _ _ _ => keepsTidy_payload hub id _
  counted := fun hub id _ _ _ => keepsTidy_payload hub id _
  flagged := fun _ _ _ => keepsTidy_aside
  lit := fun _ _ _ _ holds => keepsTidy_setLeaf rfl rfl (outfit?_of_led holds).symm
  scheduled := fun hub _ _ cells delay _ => (requeued_schedule cells.scan delay hub).keepsTidy
  pinned := fun _ _ => keepsTidy_aside
  bussed := fun _ _ => keepsTidy_aside
  stored := fun _ _ => keepsTidy_aside
  waited := fun _ _ => keepsTidy_aside

theorem lifetime_keepsTidy (leaf : LeafId) : Lifetime (KeepsTidy leaf) where
  toLabour := (conduct_keepsTidy leaf).labour
  scanned := fun _ _ _ _ _ holds => keepsTidy_setLeaf rfl rfl (outfit?_of_keypad holds).symm
  rescheduled := fun hub _ _ cells _ delay _ _ => (requeued_reschedule cells.scan delay hub).keepsTidy
  cancelled := fun hub _ _ cells _ _ _ => (requeued_cancel cells.scan hub).keepsTidy
  ledMade := fun _ _ _ _ holds bare => keepsTidy_installLed holds bare
  keypadMade := fun _ _ _ _ holds bare => keepsTidy_installKeypad holds bare
  registerCommand := (listing_keepsTidy leaf).registerCommand
  initialise := (listing_keepsTidy leaf).initialise
  registerClass := (listing_keepsTidy leaf).registerClass
  registerLeaf := (listing_keepsTidy leaf).registerLeaf
  retained := fun _ _ => keepsTidy_setLeaf rfl rfl rfl
  released := fun _ _ => keepsTidy_setLeaf rfl rfl rfl
  valued := (conduct_keepsTidy leaf).setValue
  marked := fun _ _ _ _ => keepsTidy_setLeaf rfl rfl rfl

end Steps

end Hub

end LeafHub
