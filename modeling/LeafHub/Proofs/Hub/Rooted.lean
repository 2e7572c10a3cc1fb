import LeafHub.Proofs.Hub.Outfit

namespace LeafHub

namespace WorkQueue

variable {item : ItemId} {queue : WorkQueue} {size : Nat} {ask : WorkQueue → Bool × WorkQueue}

/-- The queue takes work, and the work in it is in order. -/
structure InService (queue : WorkQueue) : Prop where
  orderly : queue.Orderly
  opened : queue.closed = false
  held : queue.owners ≠ 0

/-- All the items in the queue come before the bound. -/
def Within (size : Nat) (queue : WorkQueue) : Prop :=
  ∀ item, item ∈ queue.ready ∨ item ∈ queue.delayed.map Prod.snd → item < size

theorem within_of_empty (ready : queue.ready = []) (delayed : queue.delayed = []) : queue.Within size := by
  rintro item (member | member)
  · exact absurd (ready ▸ member) List.not_mem_nil
  · exact absurd (delayed ▸ member) List.not_mem_nil

theorem Within.subset {after : WorkQueue} (within : queue.Within size) (ready : after.ready ⊆ queue.ready)
    (delayed : after.delayed ⊆ queue.delayed) : after.Within size :=
  fun item waits => within item (waits.imp (fun member => ready member) fun member => List.map_subset Prod.snd delayed member)

theorem Within.mono {more : Nat} (within : queue.Within size) (less : size ≤ more) : queue.Within more :=
  fun item waits => Nat.lt_of_lt_of_le (within item waits) less

theorem AsksAbout.within (asks : AsksAbout item ask) (known : item < size) (within : queue.Within size) :
    (ask queue).2.Within size := by
  intro other waits
  by_cases same : other = item
  · exact same ▸ known
  · have spares := asks.spares same queue
    exact within other (waits.imp spares.ready.mp spares.delayed.mp)

theorem AsksAbout.inService (asks : AsksAbout item ask) (service : queue.InService) : (ask queue).2.InService := by
  -- what a request leaves alone about any other item, it leaves alone about the queue
  have spares := asks.spares (Nat.succ_ne_self item) queue
  exact ⟨asks.orderly service.orderly, spares.closed.trans service.opened, spares.owners.trans_ne service.held⟩

theorem Within.turn (within : queue.Within size) (now : Nat) : (queue.turn now).2.Within size := by
  intro item waits
  by_contra unknown
  have unready : item ∉ queue.ready := fun member => unknown (within item (.inl member))
  have undelayed : item ∉ queue.delayed.map Prod.snd := fun member => unknown (within item (.inr member))
  obtain ⟨_, gone, never⟩ := absent_turn unready undelayed now
  exact waits.elim gone never

theorem InService.turn (service : queue.InService) (now : Nat) : (queue.turn now).2.InService := by
  have promoted := service.orderly.bides_promoteDue 0 now
  have after : (queue.turn now).2.closed = queue.closed ∧ (queue.turn now).2.owners = queue.owners := by
    obtain ⟨_, ran⟩ | ⟨_, _, _, ran⟩ := queue.turn_cases now
    · rw [ran]
      exact ⟨promoted.closed, promoted.owners⟩
    · rw [ran]
      exact ⟨promoted.closed, promoted.owners⟩
  exact ⟨service.orderly.turn now, after.1.trans service.opened, after.2.trans_ne service.held⟩

end WorkQueue

namespace Outfit

/-- The cells that were made for the leaf. -/
def cells (outfit : Outfit) : List CellId :=
  (outfit.rows .runtime ++ outfit.rows .persistent).map Prod.fst

/-- The item that the leaf asks for turns of. -/
def scan? : Outfit → Option ItemId
  | led _ => none
  | keypad cells => some cells.scan

end Outfit

open Hub Passage

namespace Hub

/-- What the outfit is made of is there. -/
def Knows (hub : Hub) (outfit : Outfit) : Prop :=
  (∀ cell ∈ outfit.cells, cell < hub.cells.size) ∧ ∀ item ∈ outfit.scan?, item < hub.items.size

/-- Whatever is pointed to is there, the hub's own queue takes work, and an item runs a leaf only if the leaf has been
fitted out. -/
structure Rooted (hub : Hub) : Prop where
  sound : hub.WellFormed
  heard : ∀ cell item, hub.Attached item cell → item < hub.items.size
  queued : ∀ queue, (hub.queues.get queue).Within hub.items.size
  service : (hub.queues.get ownQueue).InService
  listed : ∀ catalogue, ∀ cell ∈ hub.listed catalogue, cell < hub.cells.size
  fitted : ∀ leaf outfit, hub.outfit? leaf = some outfit → hub.Knows outfit
  served : ∀ item < hub.items.size, ∀ leaf, (hub.items.get item).handler.leaf? = some leaf → (hub.outfit? leaf).isSome = true
  past : ∀ happening ∈ hub.journal.toList, ∀ cell, happening.changed? = some cell → cell < hub.cells.size

variable {hub after : Hub} {leaf id : LeafId} {cell : CellId} {item : ItemId}

theorem Knows.mono {outfit : Outfit} (knows : hub.Knows outfit) (cells : hub.cells.size ≤ after.cells.size)
    (items : hub.items.size ≤ after.items.size) : after.Knows outfit :=
  ⟨fun cell own => Nat.lt_of_lt_of_le (knows.1 cell own) cells, fun item own => Nat.lt_of_lt_of_le (knows.2 item own) items⟩

/-- What has just been made of an outfit is there. -/
theorem GrowsBy.knows {outfit : Outfit} {growth : Growth} (grows : hub.GrowsBy id outfit growth) :
    (hub.grow growth).Knows outfit := by
  constructor
  · intro cell own
    obtain ⟨row, member, rfl⟩ := List.mem_map.mp own
    exact (List.mem_append.mp member).elim (fun there => (grows.new .runtime row there).2)
      fun there => (grows.new .persistent row there).2
  · intro item own
    obtain ⟨made, there, uses, _⟩ := grows.item
    cases outfit with
    | led cells => cases own
    | keypad cells => exact Option.some.inj own ▸ (show cells.scan = made from uses).symm ▸ there

theorem mem_cells_of_owns (owns : hub.Owns leaf cell) : ∃ outfit, hub.outfit? leaf = some outfit ∧ cell ∈ outfit.cells := by
  cases owns with
  | led holds member => exact ⟨_, outfit?_of_led holds, member⟩
  | keypad holds member => exact ⟨_, outfit?_of_keypad holds, member⟩

namespace Rooted

variable (rooted : hub.Rooted)

include rooted

theorem owned (owns : hub.Owns leaf cell) : cell < hub.cells.size := by
  obtain ⟨outfit, has, member⟩ := mem_cells_of_owns owns
  exact (rooted.fitted leaf outfit has).1 cell member

theorem scanned {bus : String} {cells : KeypadCells} {scanning : Bool}
    (holds : hub.keypad? leaf = some ⟨bus, some cells, scanning⟩) : cells.scan < hub.items.size :=
  (rooted.fitted leaf (.keypad cells) (outfit?_of_keypad holds)).2 cells.scan rfl

theorem grounded : hub.Grounded where
  sound := rooted.sound
  heard := rooted.heard
  queued := rooted.queued
  owned := fun _ _ => rooted.owned
  scanned := fun _ _ _ _ => rooted.scanned
  settings := rooted.listed .persistent
  orderly := rooted.service.orderly
  opened := rooted.service.opened
  held := rooted.service.held
  past := rooted.past

/-- Nobody runs a leaf that has not been fitted out. -/
theorem alone (bare : hub.outfit? leaf = none) {item : ItemId} (known : item < hub.items.size) :
    (hub.items.get item).handler.leaf? ≠ some leaf := by
  intro serves
  have fitted := rooted.served item known leaf serves
  rw [bare] at fitted
  cases fitted

section Aside

theorem aside {config : Config} {classes : List LeafClass} {leafList : List LeafId} {leafListHeld : Bool}
    {commands : CommandTable} {identity : Identity} {initialised : Bool} {pins : Directory Pin} {buses : Directory Bus}
    {media : Directory Medium} {clock : Nat} : Rooted { hub with
      config, classes, leafList, leafListHeld, commands, identity, initialised, pins, buses, media, clock } :=
  { rooted with sound := rooted.sound.of_same rfl rfl }

theorem journaled {journal : Array Happening}
    (adds : Adds (fun happening => ∀ cell, happening.changed? = some cell → cell < hub.cells.size) hub { hub with journal }) :
    Rooted { hub with journal } :=
  { rooted with
    sound := rooted.sound.of_same rfl rfl
    past := fun happening member => by
      obtain ⟨more, same, fine⟩ := adds
      rw [same] at member
      exact (List.mem_append.mp member).elim (rooted.past happening) (fine happening) }

theorem withLines (lines : List (Level × String)) : (hub.withLines lines).Rooted :=
  rooted.journaled (adds_of_lines (fun _ _ _ => nofun) rfl)

theorem noted {happening : Happening} (known : ∀ cell, happening.changed? = some cell → cell < hub.cells.size) :
    Rooted { hub with journal := hub.journal.push happening } :=
  rooted.journaled (adds_of_push known rfl)

theorem onlyLogged (only : hub.OnlyLogged after) : after.Rooted := by
  obtain ⟨lines, rfl⟩ := only
  exact rooted.withLines lines

theorem log (level : Level) (line : String) : ((Hub.log level line).run hub).2.Rooted :=
  rooted.noted fun _ => nofun

theorem withFlags {flags : Pool UInt32} (size : hub.flags.size ≤ flags.size) : Rooted { hub with flags } :=
  { rooted with sound := rooted.sound.withFlags size }

/-- What leaves have been fitted out with is as it was. -/
theorem withLeaves {leaves : Pool Leaf} (same : ∀ leaf, outfit? { hub with leaves } leaf = hub.outfit? leaf) :
    Rooted { hub with leaves } :=
  { rooted with
    sound := rooted.sound.of_same rfl rfl
    fitted := fun leaf outfit has => rooted.fitted leaf outfit ((same leaf).symm.trans has)
    served := fun item known leaf serves => (same leaf).symm ▸ rooted.served item known leaf serves }

theorem setLeaf {other : Leaf} (same : other.context.bind Context.outfit? = hub.outfit? id) :
    Rooted { hub with leaves := hub.leaves.set id other } :=
  rooted.withLeaves fun _ => outfit?_setLeaf same

end Aside

section Queues

theorem requeued {queues : Pool WorkQueue} (queued : ∀ queue, (queues.get queue).Within hub.items.size)
    (service : (queues.get ownQueue).InService) : Rooted { hub with queues } :=
  { rooted with sound := rooted.sound.of_same rfl rfl, queued, service }

theorem askQueue (known : item < hub.items.size) {ask : WorkQueue → Bool × WorkQueue}
    (asks : WorkQueue.AsksAbout item ask) : ((Hub.askQueue item ask).run hub).2.Rooted := by
  rw [run_askQueue]
  split
  · exact rooted
  · refine rooted.requeued (fun queue => ?_) ?_
    · rw [get_asked]
      split
      · exact asks.within known (rooted.queued queue)
      · exact rooted.queued queue
    · rw [get_asked]
      split
      · exact asks.inService rooted.service
      · exact rooted.service

theorem submit (known : item < hub.items.size) : ((Hub.submit item).run hub).2.Rooted := by
  rw [run_submit]
  split
  · exact rooted.log _ _
  · exact rooted.askQueue known (WorkQueue.asksAbout_submit item)

theorem schedule (known : item < hub.items.size) (delay : Nat) : ((Hub.schedule item delay).run hub).2.Rooted :=
  rooted.askQueue known (WorkQueue.asksAbout_schedule item (hub.clock + delay))

theorem reschedule (known : item < hub.items.size) (delay : Nat) : ((Hub.reschedule item delay).run hub).2.Rooted :=
  rooted.askQueue known (WorkQueue.asksAbout_reschedule item (hub.clock + delay))

theorem cancel (known : item < hub.items.size) : ((Hub.cancel item).run hub).2.Rooted :=
  rooted.askQueue known (WorkQueue.asksAbout_cancel item)

/-- Nothing is started that was not waiting. -/
theorem turned (queue : QueueId) : (hub.turned queue).Rooted := by
  have queues : Rooted { hub with queues := (hub.turned queue).queues } := by
    refine rooted.requeued (fun other => ?_) ?_
    · rw [get_turned]
      split
      · exact (rooted.queued other).turn hub.clock
      · exact rooted.queued other
    · rw [get_turned]
      split
      · exact rooted.service.turn hub.clock
      · exact rooted.service
  unfold Hub.turned
  cases ((hub.queues.get queue).turn hub.clock).1 with
  | none => exact queues
  | some item => exact queues.noted fun _ => nofun

/-- Closing and owning of a queue that is not the hub's own. -/
theorem setQueue {queue : QueueId} (apart : queue ≠ ownQueue) {other : WorkQueue}
    (ready : other.ready ⊆ (hub.queues.get queue).ready) (delayed : other.delayed ⊆ (hub.queues.get queue).delayed) :
    ((Hub.setQueue queue other).run hub).2.Rooted := by
  refine rooted.requeued (fun any => ?_) ?_
  · rw [Pool.get_set]
    split
    · exact (rooted.queued queue).subset ready delayed
    · exact rooted.queued any
  · rw [Pool.get_set_other apart.symm]
    exact rooted.service

theorem newQueue : (Hub.newQueue.run hub).2.Rooted := by
  refine rooted.requeued (fun queue => ?_) ?_
  · rw [Pool.get_add]
    split
    · exact WorkQueue.within_of_empty rfl rfl
    · exact rooted.queued queue
  · rw [Pool.get_add_old (known_of_owned rooted.service.held)]
    exact rooted.service

/-- An item that is made for no leaf. -/
theorem newItem {item : WorkItem} (free : item.handler.leaf? = none) : ((Hub.newItem item).run hub).2.Rooted := by
  have more : hub.items.size ≤ (hub.items.add item).size := by simp
  exact
    { rooted with
      sound := rooted.sound.of_same rfl rfl
      heard := fun cell item attached => Nat.lt_of_lt_of_le (rooted.heard cell item attached) more
      queued := fun queue => (rooted.queued queue).mono more
      fitted := fun leaf outfit has => (rooted.fitted leaf outfit has).mono (Nat.le_refl _) more
      served := fun old known leaf serves => by
        change ((hub.items.add item).get old).handler.leaf? = some leaf at serves
        rw [Pool.get_add] at serves
        split at serves
        · rw [free] at serves
          cases serves
        · rename_i elsewhere
          have added : (hub.items.add item).size = hub.items.size + 1 := Pool.size_add _ _
          have before : old ≤ hub.items.size := Nat.lt_succ_iff.mp (Nat.lt_of_lt_of_eq known added)
          exact rooted.served old (Nat.lt_of_le_of_ne before elsewhere) leaf serves }

end Queues

section Cells

/-- The cells are other ones, and not fewer. -/
theorem withCells {cells : Pool Cell} {flags : Pool UInt32} (sound : WellFormed { hub with cells, flags })
    (size : hub.cells.size ≤ cells.size)
    (heard : ∀ cell item, Attached { hub with cells, flags } item cell → item < hub.items.size) :
    Rooted { hub with cells, flags } :=
  { rooted with
    sound
    heard
    listed := fun catalogue cell member => Nat.lt_of_lt_of_le (rooted.listed catalogue cell member) size
    fitted := fun leaf outfit has => (rooted.fitted leaf outfit has).mono size (Nat.le_refl _)
    past := fun happening member cell mine => Nat.lt_of_lt_of_le (rooted.past happening member cell mine) size }

/-- A cell of the hub has been written. -/
theorem putNoted {value : Value} {happening : Happening} (known : cell < hub.cells.size)
    (sort : value.kind = (hub.cell cell).kind) (changed : happening.changed? = some cell) :
    (hub.putNoted cell value happening).Rooted := by
  have wrote := rooted.sound.wrote_putNoted known sort changed
  obtain ⟨sound, continues⟩ := (recelled_putNoted sort happening).keeps rooted.sound
  have past : (hub.putNoted cell value happening).journal = hub.journal.push happening := rfl
  obtain ⟨cells, flags, same⟩ := wrote.rest
  rw [past] at same
  rw [same] at wrote sound continues ⊢
  have written : Rooted { hub with cells, flags } := rooted.withCells (sound.of_same rfl rfl) continues.size
    fun other item attached => rooted.heard other item ((wrote.subscriber other).symm.trans attached)
  exact written.noted fun other mine =>
    Option.some.inj (changed.symm.trans mine) ▸ Nat.lt_of_lt_of_le known continues.size

theorem notify (cell : CellId) : ((Hub.notify cell).run hub).2.Rooted := by
  rw [run_notify]
  cases holder : (hub.cell cell).subscriber with
  | none => exact rooted
  | some item => exact rooted.submit (rooted.heard cell item holder)

/-- Whatever is asked of a cell of the hub. -/
theorem mutation (mutation : Mutation) (known : ∀ cell, mutation.cell? hub = some cell → cell < hub.cells.size) :
    (mutation.run.run hub).2.Rooted := by
  have effect := hub.effect mutation
  generalize (mutation.run.run hub).1 = granted at effect
  generalize (mutation.run.run hub).2 = after at effect
  cases effect with
  | refused _ _ only => exact rooted.onlyLogged only
  | passedOver _ only => exact rooted.onlyLogged only
  | @granted cell value happening started about asks changed only =>
    have sort : value.kind = (started.cell cell).kind := by
      rw [Hub.cell, only.cells]
      exact rooted.sound.kind_value? asks
    have there : cell < started.cells.size := only.cells ▸ known cell about
    exact ((rooted.onlyLogged only).putNoted there sort changed).notify cell

theorem store (known : cell < hub.cells.size) (value : Value) : ((Hub.store cell value).run.run hub).2.Rooted :=
  rooted.mutation (.store cell value) fun _ about => Option.some.inj about ▸ known

theorem count (known : cell < hub.cells.size) (delta : Int64) : ((Hub.count cell delta).run.run hub).2.Rooted :=
  rooted.mutation (.count cell delta) fun _ about => Option.some.inj about ▸ known

theorem subscribed {subscriber : Option ItemId} (known : ∀ item ∈ subscriber, item < hub.items.size) (cell : CellId) :
    Rooted { hub with cells := hub.cells.set cell { hub.cell cell with subscriber } } := by
  refine rooted.withCells (rooted.sound.step (.subscribed hub cell subscriber)) (Nat.le_of_eq (Pool.size_set _ _ _).symm)
    fun other item attached => ?_
  rw [Attached, cell_set] at attached
  split at attached
  · exact known item attached
  · exact rooted.heard other item attached

/-- Nobody listens to a new cell, and it is in no list yet. -/
theorem newCell (name : String) (initial : Value) : ((Hub.newCell name initial).run hub).2.Rooted := by
  have recelled := frame_recelled.newCell name initial hub
  obtain ⟨lines, made⟩ := @grow_newCell hub [] hub.cells hub.flags hub.items hub.variableList hub.settingList name initial
  rw [grow_self] at made
  rw [made] at recelled ⊢
  obtain ⟨sound, continues⟩ := recelled.keeps rooted.sound
  refine (rooted.withLines lines).withCells sound continues.size fun other item attached => ?_
  change ((hub.cells.add _).get other).subscriber = some item at attached
  rw [Pool.get_add] at attached
  split at attached
  · cases attached
  · exact rooted.heard other item attached

theorem relisted {variableList settingList : List CellId} (shown : ∀ cell ∈ variableList, cell < hub.cells.size)
    (kept : ∀ cell ∈ settingList, cell < hub.cells.size) : Rooted { hub with variableList, settingList } :=
  { rooted with
    sound := rooted.sound.of_same rfl rfl
    listed := fun catalogue => by
      cases catalogue with
      | runtime => exact shown
      | persistent => exact kept }

theorem register (catalogue : Catalogue) {ids : List CellId} (known : ∀ cell ∈ ids, cell < hub.cells.size) :
    ((Hub.register catalogue ids).run hub).2.Rooted := by
  obtain ⟨lines, registered⟩ := @grow_registerFrom hub catalogue ids.length ids 0
    ⟨[], hub.cells, hub.flags, hub.items, hub.variableList, hub.settingList⟩
  rw [grow_self] at registered
  unfold Hub.register
  rw [registered]
  have lined := rooted.withLines lines
  have shown := rooted.listed .runtime
  have kept := rooted.listed .persistent
  cases catalogue with
  | runtime => exact lined.relisted (List.forall_mem_append.mpr ⟨shown, known⟩) kept
  | persistent => exact lined.relisted shown (List.forall_mem_append.mpr ⟨kept, known⟩)

end Cells

/-- A leaf that has not been fitted out. -/
theorem newLeaf {other : Leaf} (bare : other.context.bind Context.outfit? = none) :
    ((Hub.newLeaf other).run hub).2.Rooted := by
  refine rooted.withLeaves fun leaf => ?_
  rw [outfit?, Hub.leaf, Pool.get_add]
  split
  · rename_i new
    have nobody : hub.leaf leaf = default := Pool.get_unknown (Nat.le_of_eq new.symm)
    rw [bare, outfit?, nobody]
    rfl
  · rfl

/-- The first init of a leaf makes what the leaf needs, and that is all that the leaf points to. -/
theorem grown {outfit : Outfit} {growth : Growth} {context : Context} (grows : hub.GrowsBy id outfit growth)
    (sound : ((setContext id context).run (hub.grow growth)).2.WellFormed) (known : id < hub.leaves.size)
    (carries : context.outfit? = some outfit) :
    ((setContext id context).run (hub.grow growth)).2.Rooted := by
  have has (leaf : LeafId) : ((setContext id context).run (hub.grow growth)).2.outfit? leaf =
      if leaf = id then some outfit else hub.outfit? leaf := by
    rw [outfit?_setContext, carries]
    by_cases own : leaf = id
    · rw [if_pos own, if_pos ⟨own, known⟩]
    · rw [if_neg own, if_neg fun here => own here.1]
      rfl
  have lined := rooted.withLines growth.lines
  exact
    { sound := sound
      heard := fun cell item attached => by
        change (growth.cells.get cell).subscriber = some item at attached
        rcases Nat.lt_or_ge cell hub.cells.size with old | new
        · rw [grows.cells cell old] at attached
          exact Nat.lt_of_lt_of_le (rooted.heard cell item attached) grows.more
        · exact (grows.heard cell item new attached).2
      queued := fun queue => (rooted.queued queue).mono grows.more
      service := rooted.service
      listed := fun catalogue cell member => by
        have listed : ((setContext id context).run (hub.grow growth)).2.listed catalogue =
            hub.listed catalogue ++ (outfit.rows catalogue).map Prod.fst := grows.listed catalogue
        rw [listed] at member
        rcases List.mem_append.mp member with old | new
        · exact Nat.lt_of_lt_of_le (rooted.listed catalogue cell old) grows.size
        · obtain ⟨row, there, rfl⟩ := List.mem_map.mp new
          exact (grows.new catalogue row there).2
      fitted := fun leaf other fitted => by
        rw [has] at fitted
        split at fitted
        · cases fitted
          exact grows.knows
        · exact (rooted.fitted leaf other fitted).mono grows.size grows.more
      served := fun item there leaf serves => by
        rw [has]
        split
        · rfl
        · rename_i elsewhere
          rcases Nat.lt_or_ge item hub.items.size with old | new
          · exact rooted.served item old leaf (grows.items item old ▸ serves)
          · exact absurd (Option.some.inj (serves.symm.trans (grows.handler item new there))) elsewhere
      past := fun happening member own mine => Nat.lt_of_lt_of_le (lined.past happening member own mine) grows.size }

end Rooted

/-- What may be done to a hub so that nothing comes to point to what is not there. -/
def KeepsRooted (hub after : Hub) : Prop :=
  hub.Rooted → after.Rooted

theorem passage_keepsRooted : Passage KeepsRooted where
  refl := fun _ rooted => rooted
  trans := fun first second rooted => second (first rooted)

theorem cataloguing_keepsRooted : Cataloguing KeepsRooted where
  toPassage := passage_keepsRooted
  logged := fun level line _ rooted => rooted.log level line
  catalogued := fun _ _ _ _ _ _ rooted => rooted.aside

theorem lifetime_keepsRooted : Lifetime KeepsRooted where
  toLogging := cataloguing_keepsRooted.toLogging
  entered := fun _ id value listed rooted => rooted.store (rooted.listed .persistent id listed) value
  shelved := fun _ _ _ rooted => rooted.aside
  noted := fun _ _ plain rooted => rooted.noted fun cell changed => by
    rw [(show Idle 0 _ from idle_of_plain plain).1] at changed
    cases changed
  bussed := fun _ _ rooted => rooted.aside
  asked := fun hub id state level _ _ rooted => by
    have driven : Rooted { hub with pins := hub.pins.put state.pin ((hub.pin state.pin).drive level).2 } := rooted.aside
    exact driven.noted fun _ => nofun
  lit := fun _ _ _ _ _ holds rooted => rooted.setLeaf (outfit?_of_led holds).symm
  written := fun _ _ _ value _ owns rooted => rooted.store (rooted.owned owns) value
  counted := fun _ _ _ delta _ owns rooted => rooted.count (rooted.owned owns) delta
  scheduled := fun _ _ _ _ delay _ holds rooted => rooted.schedule (rooted.scanned holds) delay
  scanned := fun _ _ _ _ _ holds rooted => rooted.setLeaf (outfit?_of_keypad holds).symm
  rescheduled := fun _ _ _ _ _ delay _ holds rooted => rooted.reschedule (rooted.scanned holds) delay
  cancelled := fun _ _ _ _ _ _ holds rooted => rooted.cancel (rooted.scanned holds)
  registerCommand := cataloguing_keepsRooted.registerCommand
  ledMade := fun hub id state _ holds _ rooted => by
    have recelled := frame_recelled.installLed id state hub
    obtain ⟨lines, installed⟩ := run_installLed hub id state
    rw [installed] at recelled ⊢
    exact rooted.grown (growsBy_led hub id lines) (recelled.keeps rooted.sound).1
      (known_of_context (led?_eq_some.mp holds)) rfl
  keypadMade := fun hub id state _ holds _ rooted => by
    have recelled := frame_recelled.installKeypad id state hub
    obtain ⟨lines, installed⟩ := run_installKeypad hub id state
    rw [installed] at recelled ⊢
    exact rooted.grown (growsBy_keypad hub id lines) (recelled.keeps rooted.sound).1
      (known_of_context (keypad?_eq_some.mp holds)) rfl
  initialise := cataloguing_keepsRooted.listing.initialise
  registerClass := cataloguing_keepsRooted.listing.registerClass
  registerLeaf := cataloguing_keepsRooted.registerLeaf
  retained := fun _ _ rooted => rooted.setLeaf rfl
  released := fun _ _ rooted => rooted.setLeaf rfl
  valued := fun _ => passage_keepsRooted.setValue fun _ _ found value rooted =>
    rooted.store (rooted.listed .runtime _ (List.mem_of_find?_eq_some found)) value
  marked := fun _ _ _ _ rooted => rooted.setLeaf rfl

theorem allowsTurns_keepsRooted : AllowsTurns (Act.Keeps KeepsRooted) where
  look := passage_keepsRooted.get
  log := cataloguing_keepsRooted.logged
  turn := fun queue hub rooted => by
    rw [run_takeTurn]
    split
    · exact lifetime_keepsRooted.runHandler (fun _ _ => trivial) _ (rooted.turned queue)
    · exact rooted.turned queue
  wait := fun _ _ rooted => rooted.aside

/-- A hub in which leaves have been made and devices connected, but no leaf has been inited. -/
theorem rooted_fresh (config : Config) {leaves : Pool Leaf} (pins : Directory Pin) (buses : Directory Bus)
    (media : Directory Medium) (bare : ∀ id, (leaves.get id).context.bind Context.outfit? = none) :
    Rooted { fresh config with leaves, pins, buses, media } where
  sound := (wellFormed_fresh config).of_same rfl rfl
  heard := fun cell item attached => by
    have nobody : (fresh config).cell cell = default := Pool.get_unknown (Nat.zero_le cell)
    exact absurd ((congrArg Cell.subscriber nobody).symm.trans attached) nofun
  queued := fun queue => by
    change ((Pool.empty.add WorkQueue.fresh).get queue).Within 0
    have nobody : (Pool.empty : Pool WorkQueue).get queue = default := Pool.get_unknown (Nat.zero_le queue)
    rw [Pool.get_add, nobody]
    split <;> exact WorkQueue.within_of_empty rfl rfl
  service := ⟨WorkQueue.orderly_fresh, rfl, Nat.one_ne_zero⟩
  listed := fun catalogue cell member => by cases catalogue <;> cases member
  fitted := fun leaf outfit has => by
    rw [outfit?, Hub.leaf, bare] at has
    cases has
  served := fun item known => absurd known (Nat.not_lt_zero item)
  past := nofun

end Hub

end LeafHub
