import LeafHub.Proofs.Hub.CellForm
import LeafHub.Proofs.Hub.OnCall

namespace LeafHub

variable {α : Type} {leaf : LeafId} {item : ItemId}

namespace Hub

/-- The journal has only grown, by happenings of that sort. -/
def Adds (sort : Happening → Prop) (hub after : Hub) : Prop :=
  ∃ more, after.journal.toList = hub.journal.toList ++ more ∧ ∀ happening ∈ more, sort happening

section Adds

variable {sort : Happening → Prop}

theorem adds_of_same {hub after : Hub} (same : after.journal = hub.journal) : Adds sort hub after :=
  ⟨[], by simp [same], nofun⟩

theorem adds_of_push {hub after : Hub} {happening : Happening} (fine : sort happening)
    (pushed : after.journal = hub.journal.push happening) : Adds sort hub after :=
  ⟨[happening], by simp [pushed], fun _ member => List.mem_singleton.mp member ▸ fine⟩

theorem passage_adds (sort : Happening → Prop) : Passage (Adds sort) where
  refl := fun _ => adds_of_same rfl
  trans := by
    rintro first second third ⟨past, journal, fine⟩ ⟨more, journal', fine'⟩
    refine ⟨past ++ more, by rw [journal', journal, List.append_assoc], fun happening member => ?_⟩
    rcases List.mem_append.mp member with before | later
    · exact fine happening before
    · exact fine' happening later

theorem Adds.mono {other : Happening → Prop} {hub after : Hub} (adds : Adds sort hub after)
    (more : ∀ happening, sort happening → other happening) : Adds other hub after := by
  obtain ⟨added, journal, fine⟩ := adds
  exact ⟨added, journal, fun happening member => more happening (fine happening member)⟩

theorem adds_of_lines {hub after : Hub} {lines : List (Level × String)} (fine : ∀ level line, sort (.log level line))
    (logged : after.journal = (hub.withLines lines).journal) : Adds sort hub after := by
  refine ⟨lines.map fun line => .log line.1 line.2, by simp [logged, withLines], fun happening member => ?_⟩
  obtain ⟨line, _, rfl⟩ := List.mem_map.mp member
  exact fine _ _

end Adds

theorem WellFormed.of_same {hub after : Hub} (sound : hub.WellFormed) (cells : after.cells = hub.cells)
    (flags : after.flags = hub.flags) : after.WellFormed :=
  sound.step (.aside cells flags)

/-- The item is ready or has a deadline. -/
def Waits (hub : Hub) (item : ItemId) : Prop :=
  hub.isPending item = true ∨ (hub.queueOf item).isDelayed item = true

/-- The hub's own queue runs the item for the leaf. No other queue knows it, and no other item does the same. -/
structure Serves (hub : Hub) (leaf : LeafId) (item : ItemId) : Prop where
  known : item < hub.items.size
  handler : (hub.items.get item).handler.leaf? = some leaf
  queue : (hub.items.get item).queue = ownQueue
  alone : ∀ other < hub.items.size, (hub.items.get other).handler = (hub.items.get item).handler → other = item
  orderly : (hub.queues.get ownQueue).Orderly
  opened : (hub.queues.get ownQueue).closed = false
  owned : (hub.queues.get ownQueue).owners ≠ 0
  elsewhere : ∀ id, id ≠ ownQueue → item ∉ (hub.queues.get id).ready ∧ item ∉ (hub.queues.get id).delayed.map Prod.snd

/-- The item waits as it did before. It is ready besides if one of the cells that it is attached to has changed. -/
structure Bides (item : ItemId) (hub after : Hub) : Prop where
  same : after.items.get item = hub.items.get item
  pending : hub.isPending item = true → after.isPending item = true
  waits : hub.Waits item → after.Waits item
  idle : after.Waits item → hub.Waits item ∨ ∃ cell, hub.Attached item cell
  attached : ∀ cell, after.Attached item cell ↔ hub.Attached item cell
  heard : ∀ cell, hub.Attached item cell →
    (after.cell cell).payload = (hub.cell cell).payload ∨ after.isPending item = true

theorem passage_bides (item : ItemId) : Passage (Bides item) where
  refl := fun _ => ⟨rfl, fun pending => pending, fun waits => waits, .inl, fun _ => Iff.rfl, fun _ _ => .inl rfl⟩
  trans := by
    intro first second third one two
    refine
      { same := two.same.trans one.same
        pending := two.pending ∘ one.pending
        waits := two.waits ∘ one.waits
        idle := fun waits => ?_
        attached := fun cell => (two.attached cell).trans (one.attached cell)
        heard := fun cell attached => ?_ }
    · rcases two.idle waits with before | ⟨cell, attached⟩
      · exact one.idle before
      · exact .inr ⟨cell, (one.attached cell).mp attached⟩
    · rcases two.heard cell ((one.attached cell).mpr attached) with same | pending
      · rcases one.heard cell attached with before | pending
        · exact .inl (same.trans before)
        · exact .inr (two.pending pending)
      · exact .inr pending

namespace Serves

variable {hub after : Hub}

theorem pending_iff (serves : hub.Serves leaf item) :
    hub.isPending item = true ↔ item ∈ (hub.queues.get ownQueue).ready := by
  rw [isPending, queueOf, serves.queue]
  exact serves.orderly.pending_iff item

theorem waits_iff (serves : hub.Serves leaf item) : hub.Waits item ↔
    item ∈ (hub.queues.get ownQueue).ready ∨ item ∈ (hub.queues.get ownQueue).delayed.map Prod.snd := by
  rw [Waits, serves.pending_iff, queueOf, serves.queue, WorkQueue.isDelayed_iff]

/-- Only the hub's own queue starts the item. -/
theorem own_queue (serves : hub.Serves leaf item) {queue : QueueId}
    (starts : ((hub.queues.get queue).turn hub.clock).1 = some item) : queue = ownQueue := by
  by_contra apart
  obtain ⟨unready, undelayed⟩ := serves.elsewhere queue apart
  exact (WorkQueue.absent_turn unready undelayed hub.clock).1 starts

/-- The items are the same, and the queue goes on in good order. -/
theorem of_queue (serves : hub.Serves leaf item) (items : after.items = hub.items) {queue : WorkQueue}
    (own : after.queues.get ownQueue = queue) (orderly : queue.Orderly)
    (closed : queue.closed = (hub.queues.get ownQueue).closed) (owners : queue.owners = (hub.queues.get ownQueue).owners)
    (elsewhere : ∀ id, id ≠ ownQueue →
      item ∉ (after.queues.get id).ready ∧ item ∉ (after.queues.get id).delayed.map Prod.snd) :
    after.Serves leaf item where
  known := items ▸ serves.known
  handler := items ▸ serves.handler
  queue := items ▸ serves.queue
  alone := items ▸ serves.alone
  orderly := own ▸ orderly
  opened := own ▸ closed.trans serves.opened
  owned := own ▸ owners.trans_ne serves.owned
  elsewhere := elsewhere

/-- The queues are the same, and items that are new do not run the leaf. -/
theorem of_items (serves : hub.Serves leaf item) (queues : after.queues = hub.queues)
    (more : hub.items.size ≤ after.items.size) (same : ∀ old < hub.items.size, after.items.get old = hub.items.get old)
    (apart : ∀ new, hub.items.size ≤ new → new < after.items.size →
      (after.items.get new).handler.leaf? ≠ some leaf) : after.Serves leaf item := by
  have held := same item serves.known
  exact
    { known := Nat.lt_of_lt_of_le serves.known more
      handler := held ▸ serves.handler
      queue := held ▸ serves.queue
      alone := fun other known handled => by
        rw [held] at handled
        rcases Nat.lt_or_ge other hub.items.size with old | new
        · exact serves.alone other old (same other old ▸ handled)
        · exact absurd (handled ▸ serves.handler) (apart other new known)
      orderly := queues ▸ serves.orderly
      opened := queues ▸ serves.opened
      owned := queues ▸ serves.owned
      elsewhere := queues ▸ serves.elsewhere }

/-- What happened to the queues was not about the item. -/
theorem requeue (serves : hub.Serves leaf item) (items : after.items = hub.items)
    (own : (hub.queues.get ownQueue).Bides item (after.queues.get ownQueue))
    (others : ∀ id, id ≠ ownQueue →
      item ∉ (after.queues.get id).ready ∧ item ∉ (after.queues.get id).delayed.map Prod.snd) :
    after.Serves leaf item ∧ (hub.isPending item = true → after.isPending item = true) ∧
      (after.Waits item ↔ hub.Waits item) := by
  have later := serves.of_queue items rfl own.orderly own.closed own.owners others
  rw [later.pending_iff, serves.pending_iff, later.waits_iff, serves.waits_iff]
  exact ⟨later, own.ready, own.waits⟩

end Serves

/-- The item's own queue is asked about it. -/
theorem Serves.asked {hub : Hub} (serves : hub.Serves leaf item) (ask : WorkQueue → Bool × WorkQueue)
    (orderly : ∀ queue : WorkQueue, queue.Orderly → (ask queue).2.Orderly)
    (closed : (ask (hub.queues.get ownQueue)).2.closed = (hub.queues.get ownQueue).closed)
    (owners : (ask (hub.queues.get ownQueue)).2.owners = (hub.queues.get ownQueue).owners) :
    ∃ queues, ((askQueue item ask).run hub).2 = { hub with queues } ∧ Serves { hub with queues } leaf item ∧
      queues.get ownQueue = (ask (hub.queues.get ownQueue)).2 := by
  have owned : (hub.queueOf item).owners ≠ 0 := by
    rw [queueOf, serves.queue]
    exact serves.owned
  have there : (hub.queues.set ownQueue (ask (hub.queues.get ownQueue)).2).get ownQueue =
      (ask (hub.queues.get ownQueue)).2 := Pool.get_set_same (known_of_owned serves.owned) _
  rw [run_askQueue, if_neg owned, queueOf, serves.queue]
  refine ⟨_, rfl, serves.of_queue rfl there (orderly _ serves.orderly) closed owners fun id apart => ?_, there⟩
  rw [Pool.get_set_other apart]
  exact serves.elsewhere id apart

/-- Where item and queues are the same, so is what the item waits for. -/
theorem bides_of_same {hub after : Hub} (same : after.items.get item = hub.items.get item)
    (queues : after.queues = hub.queues) (attached : ∀ cell, after.Attached item cell ↔ hub.Attached item cell)
    (heard : ∀ cell, hub.Attached item cell → (after.cell cell).payload = (hub.cell cell).payload) :
    hub.Bides item after := by
  have pending : after.isPending item = hub.isPending item := by rw [isPending, isPending, queueOf, queueOf, same, queues]
  have waits : after.Waits item ↔ hub.Waits item := by
    rw [Waits, Waits, pending, queueOf, queueOf, same, queues]
  exact
    { same := same
      pending := fun before => pending.trans before
      waits := waits.mpr
      idle := fun later => .inl (waits.mp later)
      attached := attached
      heard := fun cell attached => .inl (heard cell attached) }

theorem serves_of_same {hub after : Hub} (serves : hub.Serves leaf item) (items : after.items = hub.items)
    (queues : after.queues = hub.queues) : after.Serves leaf item := by
  refine (serves.requeue items ?_ fun id apart => ?_).1
  · rw [queues]
    exact (WorkQueue.Spares.refl item _).bides serves.orderly
  · rw [queues]
    exact serves.elsewhere id apart

end Hub

open Hub

/-- What a leaf relies on to be its own. -/
structure Stake where
  leaf : LeafId
  /-- The item that runs the leaf, where that matters. -/
  item? : Option ItemId
  /-- The cells that nobody else writes. -/
  cells : List CellId
  /-- The names that these cells have. -/
  names : List String
  pins : List String

namespace Stake

/-- A context that has no part in the stake. -/
def Clear (stake : Stake) : Context → Prop
  | .led state => state.pin ∉ stake.pins ∧ ∀ cells, state.cells = some cells →
      ∀ cell ∈ [cells.ok, cells.on, cells.blinks, cells.duty], cell ∉ stake.cells
  | .keypad state => ∀ cells, state.cells = some cells → cells.scan ∉ stake.item? ∧
      ∀ cell ∈ [cells.ok, cells.pins, cells.event, cells.addr, cells.interval], cell ∉ stake.cells
  | _ => True

/-- What the stake is in is there, and nobody else has a part in it. -/
structure Sole (stake : Stake) (hub : Hub) : Prop where
  known : stake.leaf < hub.leaves.size
  sound : hub.WellFormed
  cells : ∀ cell ∈ stake.cells, cell < hub.cells.size ∧ cell ∉ hub.settingList
  named : ∀ cell ∈ stake.cells, (hub.cell cell).name ∈ stake.names
  serves : ∀ item ∈ stake.item?, hub.Serves stake.leaf item
  clear : ∀ other context, other ≠ stake.leaf → (hub.leaf other).context = some context → stake.Clear context

/-- Nothing happened to what the stake is in, except that items may have become ready. -/
structure Spared (stake : Stake) (hub after : Hub) : Prop where
  context : (after.leaf stake.leaf).context = (hub.leaf stake.leaf).context
  leafClass : (after.leaf stake.leaf).leafClass = (hub.leaf stake.leaf).leafClass
  pins : ∀ name ∈ stake.pins, after.pin name = hub.pin name
  cells : ∀ cell ∈ stake.cells, after.cell cell = hub.cell cell ∧ after.value cell = hub.value cell
  items : ∀ item ∈ stake.item?, hub.Bides item after
  continues : hub.Continues after
  past : Adds (fun happening => ∀ cell ∈ stake.cells, happening.changed? ≠ some cell) hub after

/-- What nobody else has a part in is spared and stays so. -/
def Respects (stake : Stake) (hub after : Hub) : Prop :=
  stake.Sole hub → stake.Spared hub after ∧ stake.Sole after

variable {stake : Stake}

theorem passage_spared (stake : Stake) : Passage stake.Spared where
  refl := fun hub =>
    { context := rfl
      leafClass := rfl
      pins := fun _ _ => rfl
      cells := fun _ _ => ⟨rfl, rfl⟩
      items := fun item _ => (passage_bides item).refl hub
      continues := passage_continues.refl hub
      past := adds_of_same rfl }
  trans := fun one two =>
    { context := two.context.trans one.context
      leafClass := two.leafClass.trans one.leafClass
      pins := fun name own => (two.pins name own).trans (one.pins name own)
      cells := fun cell own => ⟨(two.cells cell own).1.trans (one.cells cell own).1,
        (two.cells cell own).2.trans (one.cells cell own).2⟩
      items := fun item own => (passage_bides item).trans (one.items item own) (two.items item own)
      continues := passage_continues.trans one.continues two.continues
      past := (passage_adds _).trans one.past two.past }

theorem passage_respects (stake : Stake) : Passage stake.Respects :=
  (passage_spared stake).under stake.Sole

/-- Where cells and flags are the same, what is left to be seen are leaves, pins and items. -/
theorem spared_of_cells {hub after : Hub} (context : (after.leaf stake.leaf).context = (hub.leaf stake.leaf).context)
    (leafClass : (after.leaf stake.leaf).leafClass = (hub.leaf stake.leaf).leafClass) (cells : after.cells = hub.cells)
    (flags : after.flags = hub.flags) (pins : ∀ name ∈ stake.pins, after.pin name = hub.pin name)
    (items : ∀ item ∈ stake.item?, hub.Bides item after)
    (past : Adds (fun happening => ∀ cell ∈ stake.cells, happening.changed? ≠ some cell) hub after) :
    stake.Spared hub after where
  context := context
  leafClass := leafClass
  pins := pins
  cells := fun id _ => by
    have cell : after.cell id = hub.cell id := by rw [Hub.cell, Hub.cell, cells]
    exact ⟨cell, by rw [Hub.value, Hub.value, cell, flags]⟩
  items := items
  continues := continues_of_same cells
  past := past

theorem Sole.of_cells {hub after : Hub} (sole : stake.Sole hub) (cells : after.cells = hub.cells)
    (flags : after.flags = hub.flags) (settings : after.settingList = hub.settingList)
    (known : stake.leaf < after.leaves.size) (serves : ∀ item ∈ stake.item?, after.Serves stake.leaf item)
    (clear : ∀ other context, other ≠ stake.leaf → (after.leaf other).context = some context → stake.Clear context) :
    stake.Sole after where
  known := known
  sound := sole.sound.of_same cells flags
  cells := fun id own => by
    rw [cells, settings]
    exact sole.cells id own
  named := fun id own => by
    rw [Hub.cell, cells]
    exact sole.named id own
  serves := serves
  clear := clear

section Clear

variable {hub : Hub} (sole : stake.Sole hub) {other : LeafId} (apart : other ≠ stake.leaf)

include sole apart

theorem Sole.clearLed {state : LedState} (holds : hub.led? other = some state) : stake.Clear (.led state) :=
  sole.clear other _ apart (led?_eq_some.mp holds)

theorem Sole.clearKeypad {state : KeypadState} (holds : hub.keypad? other = some state) : stake.Clear (.keypad state) :=
  sole.clear other _ apart (keypad?_eq_some.mp holds)

theorem Sole.unowned {cell : CellId} (owns : hub.Owns other cell) : cell ∉ stake.cells := by
  cases owns with
  | led holds member => exact (sole.clearLed apart holds).2 _ rfl cell member
  | keypad holds member => exact (sole.clearKeypad apart holds _ rfl).2 cell member

end Clear

/-- Cells, items and pins stay as they are. Leaves may come and change their flags, but not their contexts. -/
theorem respects_aside {hub after : Hub}
    (leaves : ∀ id, (after.leaf id).context = (hub.leaf id).context ∧ (after.leaf id).leafClass = (hub.leaf id).leafClass)
    (size : hub.leaves.size ≤ after.leaves.size) (cells : after.cells = hub.cells) (flags : after.flags = hub.flags)
    (settings : after.settingList = hub.settingList) (items : after.items = hub.items)
    (queues : after.queues = hub.queues) (pins : after.pins = hub.pins)
    (past : Adds (fun happening => ∀ cell ∈ stake.cells, happening.changed? ≠ some cell) hub after) :
    stake.Respects hub after := by
  intro sole
  have cell (id : CellId) : after.cell id = hub.cell id := by rw [Hub.cell, Hub.cell, cells]
  constructor
  · refine spared_of_cells (leaves _).1 (leaves _).2 cells flags (fun name _ => by rw [Hub.pin, Hub.pin, pins])
      (fun item _ => ?_) past
    exact bides_of_same (by rw [items]) queues (fun id => by rw [Attached, Attached, cell]) fun id _ => by rw [cell]
  · exact sole.of_cells cells flags settings (Nat.lt_of_lt_of_le sole.known size)
      (fun item own => serves_of_same (sole.serves item own) items queues)
      fun other context apart holds => sole.clear other context apart ((leaves other).1.symm.trans holds)

theorem respects_noted (hub : Hub) {happening : Happening}
    (apart : ∀ cell ∈ stake.cells, happening.changed? ≠ some cell) :
    stake.Respects hub { hub with journal := hub.journal.push happening } :=
  respects_aside (fun _ => ⟨rfl, rfl⟩) (Nat.le_refl _) rfl rfl rfl rfl rfl rfl (adds_of_push apart rfl)

theorem respects_log (level : Level) (line : String) : Act.Keeps stake.Respects (log level line) :=
  fun hub => respects_noted hub fun _ _ => nofun

/-- What is new is in parts that no stake is in. -/
theorem respects_of_same {hub after : Hub} (leaves : after.leaves = hub.leaves) (cells : after.cells = hub.cells)
    (flags : after.flags = hub.flags) (settings : after.settingList = hub.settingList) (items : after.items = hub.items)
    (queues : after.queues = hub.queues) (pins : after.pins = hub.pins) (journal : after.journal = hub.journal) :
    stake.Respects hub after := by
  refine respects_aside (fun id => ?_) (Nat.le_of_eq ?_) cells flags settings items queues pins (adds_of_same journal)
  · rw [Hub.leaf, Hub.leaf, leaves]
    exact ⟨rfl, rfl⟩
  · rw [leaves]

/-- Flags and owners of a leaf are nobody's stake. -/
theorem respects_setLeaf {hub : Hub} {id : LeafId} {leaf : Leaf} (context : leaf.context = (hub.leaf id).context)
    (leafClass : leaf.leafClass = (hub.leaf id).leafClass) : stake.Respects hub ((setLeaf id leaf).run hub).2 := by
  refine respects_aside (fun other => ?_) (Nat.le_of_eq (Pool.size_set _ _ _).symm) rfl rfl rfl rfl rfl rfl (adds_of_same rfl)
  have there : ((setLeaf id leaf).run hub).2.leaf other =
      if other = id ∧ id < hub.leaves.size then leaf else hub.leaf other := Pool.get_set _ _ _ _
  rw [there]
  split
  · rename_i here
    rw [here.1]
    exact ⟨context, leafClass⟩
  · exact ⟨rfl, rfl⟩

/-- Another leaf gets a context that is clear of the stake. -/
theorem respects_setContext {hub : Hub} {other : LeafId} {context : Context} (apart : other ≠ stake.leaf)
    (clear : stake.Clear context) : stake.Respects hub ((setContext other context).run hub).2 := by
  intro sole
  have leaf (id : LeafId) : ((setContext other context).run hub).2.leaf id =
      if id = other ∧ other < hub.leaves.size then { hub.leaf other with context := some context } else hub.leaf id :=
    Pool.get_set _ _ _ _
  have own : ((setContext other context).run hub).2.leaf stake.leaf = hub.leaf stake.leaf := by
    rw [leaf, if_neg fun here => apart here.1.symm]
  have pools : ((setContext other context).run hub).2 = { hub with leaves := hub.leaves.set other _ } := rfl
  constructor
  · exact spared_of_cells (by rw [own]) (by rw [own]) rfl rfl (fun _ _ => rfl)
      (fun item _ => bides_of_same rfl rfl (fun _ => Iff.rfl) fun _ _ => rfl) (adds_of_same rfl)
  · refine sole.of_cells rfl rfl rfl ?_ (fun item own => serves_of_same (sole.serves item own) rfl rfl)
      fun id held elsewhere holds => ?_
    · rw [pools, Pool.size_set]
      exact sole.known
    · rw [leaf] at holds
      split at holds
      · cases holds
        exact clear
      · exact sole.clear id held elsewhere holds

/-- The leaf of the stake gets another context. -/
theorem Sole.setContext {hub : Hub} (sole : stake.Sole hub) (context : Context) :
    stake.Sole ((Hub.setContext stake.leaf context).run hub).2 := by
  have others {other : LeafId} (apart : other ≠ stake.leaf) :
      ((Hub.setContext stake.leaf context).run hub).2.leaf other = hub.leaf other := Pool.get_set_other apart _
  exact sole.of_cells rfl rfl rfl (Nat.lt_of_lt_of_eq sole.known (Pool.size_set _ _ _).symm)
    (fun item own => serves_of_same (sole.serves item own) rfl rfl)
    fun other held apart holds => sole.clear other held apart (others apart ▸ holds)

theorem Sole.requeue {hub : Hub} (sole : stake.Sole hub) {queues : Pool WorkQueue} {journal : Array Happening}
    (serves : ∀ item ∈ stake.item?, Hub.Serves { hub with queues, journal } stake.leaf item) :
    stake.Sole { hub with queues, journal } :=
  sole.of_cells rfl rfl rfl sole.known serves sole.clear

/-- A pin that nobody has a stake in. -/
theorem respects_setPin {name : String} (apart : name ∉ stake.pins) (pin : Pin) :
    Act.Keeps stake.Respects (setPin name pin) := by
  intro hub sole
  constructor
  · refine spared_of_cells rfl rfl rfl rfl (fun own member => ?_)
      (fun item _ => bides_of_same rfl rfl (fun _ => Iff.rfl) fun _ _ => rfl) (adds_of_same rfl)
    have other : own ≠ name := fun same => apart (same ▸ member)
    show ((hub.pins.put name pin).get? own).getD .fresh = _
    rw [Directory.get?_put_other _ other]
    rfl
  · exact sole.of_cells rfl rfl rfl sole.known (fun item own => serves_of_same (sole.serves item own) rfl rfl) sole.clear

/-- The queues change, and the item of the stake does not mind. -/
theorem respects_queues {hub : Hub} {queues : Pool WorkQueue} {journal : Array Happening}
    (past : Adds (fun happening => ∀ cell ∈ stake.cells, happening.changed? ≠ some cell) hub { hub with queues, journal })
    (own : ∀ item ∈ stake.item?, (hub.queues.get ownQueue).Orderly →
      (hub.queues.get ownQueue).Bides item (queues.get ownQueue))
    (others : ∀ item ∈ stake.item?, ∀ id, id ≠ ownQueue → item ∉ (hub.queues.get id).ready →
      item ∉ (hub.queues.get id).delayed.map Prod.snd →
        item ∉ (queues.get id).ready ∧ item ∉ (queues.get id).delayed.map Prod.snd) :
    stake.Respects hub { hub with queues, journal } := by
  intro sole
  have requeued {item : ItemId} (member : item ∈ stake.item?) : Hub.Serves { hub with queues, journal } stake.leaf item ∧
      (hub.isPending item = true → Hub.isPending { hub with queues, journal } item = true) ∧
      (Hub.Waits { hub with queues, journal } item ↔ hub.Waits item) := by
    have serves := sole.serves item member
    refine serves.requeue rfl (own item member serves.orderly) fun id apart => ?_
    obtain ⟨unready, undelayed⟩ := serves.elsewhere id apart
    exact others item member id apart unready undelayed
  constructor
  · refine spared_of_cells rfl rfl rfl rfl (fun _ _ => rfl) (fun item member => ?_) past
    obtain ⟨_, pending, waits⟩ := requeued member
    exact
      { same := rfl
        pending := pending
        waits := waits.mpr
        idle := fun later => .inl (waits.mp later)
        attached := fun _ => Iff.rfl
        heard := fun _ _ => .inl rfl }
  · exact sole.requeue fun item member => (requeued member).1

section Requests

variable {other : ItemId} (apart : other ∉ stake.item?)

include apart

/-- A request about an item that is no part of the stake. -/
theorem respects_askQueue {ask : WorkQueue → Bool × WorkQueue} (asks : WorkQueue.AsksAbout other ask) :
    Act.Keeps stake.Respects (askQueue other ask) := by
  intro hub
  have distinct {item : ItemId} (member : item ∈ stake.item?) : item ≠ other := fun same => apart (same ▸ member)
  rw [run_askQueue]
  split
  · exact (passage_respects stake).refl hub
  · refine respects_queues (adds_of_same rfl) (fun item member sound => ?_) fun item member id _ unready undelayed => ?_
    · rw [get_asked]
      split
      · exact (asks.spares (distinct member) _).bides (asks.orderly sound)
      · exact (WorkQueue.Spares.refl item _).bides sound
    · rw [get_asked]
      split
      · have spared := asks.spares (distinct member) (hub.queues.get id)
        exact ⟨mt spared.ready.mp unready, mt spared.delayed.mp undelayed⟩
      · exact ⟨unready, undelayed⟩

theorem respects_schedule (delay : Nat) : Act.Keeps stake.Respects (schedule other delay) :=
  Passage.look fun hub => respects_askQueue apart (WorkQueue.asksAbout_schedule other (hub.clock + delay)) hub

theorem respects_reschedule (delay : Nat) : Act.Keeps stake.Respects (reschedule other delay) :=
  Passage.look fun hub => respects_askQueue apart (WorkQueue.asksAbout_reschedule other (hub.clock + delay)) hub

theorem respects_cancel : Act.Keeps stake.Respects (cancel other) :=
  respects_askQueue apart (WorkQueue.asksAbout_cancel other)

theorem respects_submit : Act.Keeps stake.Respects (submit other) :=
  keeps_submit respects_log (respects_askQueue apart (WorkQueue.asksAbout_submit other))

end Requests

end Stake

end LeafHub
