import LeafHub.Proofs.Hub.Rooted

namespace LeafHub

open Hub

variable {σ α : Type}

/-- What may be done to a cell of whatever kind. -/
inductive CellAct (cell : CellId) : {β : Type} → Act β → Prop
  | store (value : Value) : CellAct cell (Hub.store cell value).run
  | storeRaw (raw : Bytes) : CellAct cell (Hub.storeRaw cell raw).run
  | storeText (text : String) : CellAct cell (Hub.storeText cell text).run
  | count (delta : Int64) : CellAct cell (Hub.count cell delta).run
  | post (bits : UInt32) : CellAct cell (Hub.post cell bits).run
  | writeCharacteristic (data : Bytes) (offset limit : Nat) :
      CellAct cell (Hub.writeCharacteristic cell data offset limit).run

/-- What may be done with a work item, besides the turns of its queue. -/
inductive ItemAct (item : ItemId) : {β : Type} → Act β → Prop
  | submit : ItemAct item (Hub.submit item)
  | schedule (delay : Nat) : ItemAct item (Hub.schedule item delay)
  | reschedule (delay : Nat) : ItemAct item (Hub.reschedule item delay)
  | cancel : ItemAct item (Hub.cancel item)
  | subscribe (cell : CellId) : ItemAct item (Hub.subscribe cell item).run

/-- What names nothing that would have to be there, or looks it up, is allowed. -/
structure AllowsMaking (allowed : ∀ {β : Type}, Act β → Prop) : Prop where
  cell : ∀ name initial, allowed (newCell name initial)
  flags : ∀ bits, allowed (newFlags bits)
  item : ∀ item : WorkItem, item.handler.leaf? = none → allowed (newItem item)
  queue : allowed newQueue
  leaf : ∀ leaf : Leaf, leaf.context.bind Context.outfit? = none → allowed (newLeaf leaf)
  unsubscribe : ∀ cell, allowed (unsubscribe cell)
  changeFlags : ∀ flags bits, allowed (setFlags flags bits)
  waitFlags : ∀ flags mask reset limit arrival, allowed (waitFlags flags mask reset limit arrival)
  waitEvent : ∀ cell mask reset limit, allowed (waitEvent cell mask reset limit).run
  shutdown : ∀ queue, queue ≠ ownQueue → allowed (shutdownQueue queue)
  retain : ∀ queue, queue ≠ ownQueue → allowed (retainQueue queue)
  release : ∀ queue, queue ≠ ownQueue → allowed (releaseQueue queue)
  pin : ∀ name pin, allowed (setPin name pin)
  bus : ∀ name bus, allowed (setBus name bus)
  handleSet : ∀ key raw, allowed (handleSet key raw).run
  loadSettings : ∀ store, allowed (loadSettings store).run
  registerCommand : ∀ command, allowed (registerCommand command).run

namespace Hub

variable {hub : Hub} {cell : CellId} {item : ItemId} {β : Type} {act : Act β}

theorem keepsRooted_setFlags (flags : FlagsId) (bits : UInt32) : Act.Keeps KeepsRooted (setFlags flags bits) :=
  fun _ rooted => rooted.withFlags (Nat.le_of_eq (Pool.size_set _ _ _).symm)

theorem keepsRooted_waitFlags (flags : FlagsId) (mask : UInt32) (reset : Bool) (limit : Option Nat)
    (arrival : Option (Nat × UInt32)) : Act.Keeps KeepsRooted (waitFlags flags mask reset limit arrival) := by
  have passage := passage_keepsRooted
  unfold waitFlags
  refine passage.bind passage.get fun hub => ?_
  refine passage.bind (keepsRooted_setFlags _ _) fun _ => ?_
  exact passage.bind (allowsTurns_keepsRooted.wait _) fun _ => passage.pure _

theorem allowsMaking_keepsRooted : AllowsMaking (Act.Keeps KeepsRooted) where
  cell := fun name initial _ rooted => rooted.newCell name initial
  flags := fun bits hub rooted => rooted.withFlags (by simp : hub.flags.size ≤ (hub.flags.add bits).size)
  item := fun _ free _ rooted => rooted.newItem free
  queue := fun _ rooted => rooted.newQueue
  leaf := fun _ bare _ rooted => rooted.newLeaf bare
  unsubscribe := fun cell _ rooted => rooted.subscribed (fun _ none => absurd none (Option.not_mem_none _)) cell
  changeFlags := keepsRooted_setFlags
  waitFlags := keepsRooted_waitFlags
  waitEvent := fun cell mask reset limit => by
    have passage := passage_keepsRooted
    refine passage.tryBind (fun hub rooted => ?_) fun flags => Passage.tryLift (keepsRooted_waitFlags _ _ _ _ _)
    rw [run_flagsOf]
    exact rooted
  shutdown := fun _ apart _ rooted => rooted.setQueue apart (List.nil_subset _) (List.nil_subset _)
  retain := fun _ apart _ rooted => rooted.setQueue apart (List.Subset.refl _) (List.Subset.refl _)
  release := fun _ apart _ rooted => rooted.setQueue apart (List.Subset.refl _) (List.Subset.refl _)
  pin := fun _ _ _ rooted => rooted.aside
  bus := fun _ _ _ rooted => rooted.aside
  handleSet := lifetime_keepsRooted.handleSet
  loadSettings := lifetime_keepsRooted.loadSettings
  registerCommand := lifetime_keepsRooted.registerCommand

theorem Rooted.cellAct (rooted : hub.Rooted) (known : cell < hub.cells.size) (acts : CellAct cell act) :
    (act.run hub).2.Rooted := by
  cases acts with
  | store value => exact rooted.store known value
  | storeRaw raw => exact keeps_storeRaw passage_keepsRooted (fun value rooted => rooted.store known value) raw rooted
  | storeText text => exact keeps_storeText passage_keepsRooted (fun value rooted => rooted.store known value) text rooted
  | count delta => exact rooted.count known delta
  | post bits => exact rooted.mutation (.post cell bits) fun _ about => Option.some.inj about ▸ known
  | writeCharacteristic data offset limit =>
    exact rooted.mutation (.writeCharacteristic cell data offset limit) fun _ about => Option.some.inj about ▸ known

theorem Rooted.itemAct (rooted : hub.Rooted) (known : item < hub.items.size) (acts : ItemAct item act) :
    (act.run hub).2.Rooted := by
  cases acts with
  | submit => exact rooted.submit known
  | schedule delay => exact rooted.schedule known delay
  | reschedule delay => exact rooted.reschedule known delay
  | cancel => exact rooted.cancel known
  | subscribe cell =>
    have heard := rooted.subscribed (fun other mine => Option.some.inj mine ▸ known) cell
    exact lifetime_keepsRooted.subscribe (fun _ => heard) rooted

/-- Whatever the act names is there. -/
inductive Provides (hub : Hub) : {β : Type} → Act β → Prop
  | always {β : Type} {act : Act β} : act.Keeps KeepsRooted → hub.Provides act
  | cell {β : Type} {act : Act β} {cell : CellId} : cell < hub.cells.size → CellAct cell act → hub.Provides act
  | item {β : Type} {act : Act β} {item : ItemId} : item < hub.items.size → ItemAct item act → hub.Provides act
  | register (catalogue : Catalogue) {ids : List CellId} : (∀ cell ∈ ids, cell < hub.cells.size) →
      hub.Provides (register catalogue ids)

theorem Rooted.step (rooted : hub.Rooted) (provides : hub.Provides act) : (act.run hub).2.Rooted := by
  cases provides with
  | always keeps => exact keeps hub rooted
  | cell known acts => exact rooted.cellAct known acts
  | item known acts => exact rooted.itemAct known acts
  | register catalogue known => exact rooted.register catalogue known

/-- What comes of a hub in which no leaf has been inited, by acts that name what is there. -/
inductive Reachable : Hub → Prop
  | fresh (config : Config) {leaves : Pool Leaf} (pins : Directory Pin) (buses : Directory Bus) (media : Directory Medium) :
      (∀ id, (leaves.get id).context.bind Context.outfit? = none) →
        Reachable { fresh config with leaves, pins, buses, media }
  | act {hub : Hub} {β : Type} {act : Act β} : Reachable hub → hub.Provides act → Reachable (act.run hub).2

theorem Reachable.rooted (reachable : hub.Reachable) : hub.Rooted := by
  induction reachable with
  | fresh config pins buses media bare => exact rooted_fresh config pins buses media bare
  | act _ provides rooted => exact rooted.step provides

/-- A hub with one leaf that has not been inited. -/
theorem reachable_single (config : Config) {leaf : Leaf} (pins : Directory Pin) (buses : Directory Bus)
    (bare : leaf.context.bind Context.outfit? = none) :
    Reachable { fresh config with leaves := ⟨#[leaf]⟩, pins, buses } := by
  refine .fresh config pins buses [] fun id => ?_
  obtain rfl | beyond := Nat.eq_zero_or_pos id
  · exact bare
  · rw [Pool.get_unknown beyond]
    rfl

end Hub

namespace Routine

variable {app : Application σ} {routine : Routine σ α} {world : World σ}

/-- Whatever the routine does to the hub, at any point of its run, names what is there. -/
def Provided (app : Application σ) (routine : Routine σ α) (world : World σ) : Prop :=
  ∀ limit, ∀ {β : Type} (act : Act β) (next : β → Routine σ α), (routine.run app limit world).1 = .hub act next →
    (routine.run app limit world).2.hub.Provides act

/-- Routines of acts that need nothing to be there. -/
theorem provided_of_uses (application : app.Uses (Act.Keeps KeepsRooted)) (uses : routine.Uses (Act.Keeps KeepsRooted)) :
    routine.Provided app world := by
  intro limit β act next here
  have rest := uses.run (application.body allowsTurns_keepsRooted) world limit
  rw [here] at rest
  exact .always rest.1

theorem reachable_run (provided : routine.Provided app world) (start : world.hub.Reachable) (limit : Nat) :
    (routine.run app limit world).2.hub.Reachable := by
  induction limit with
  | zero => exact start
  | succ limit ih =>
    rw [run_next]
    cases here : (routine.run app limit world).1 with
    | done answer => exact ih
    | hub act next => exact .act ih (provided limit act next here)
    | own act next => exact ih
    | call c next => exact ih

/-- However leaves live, whatever is made, and whatever is asked of cells and items that are there: from a hub on in which
no leaf has been inited the hub stays grounded, and nobody runs a leaf before its first init. -/
structure StaysGrounded (app : Application σ) : Prop where
  life : AllowsLife σ (Act.Keeps KeepsRooted)
  turns : AllowsTurns (Act.Keeps KeepsRooted)
  making : AllowsMaking (Act.Keeps KeepsRooted)
  provided : app.Uses (Act.Keeps KeepsRooted) → ∀ {α : Type} {routine : Routine σ α},
    routine.Uses (Act.Keeps KeepsRooted) → ∀ world, routine.Provided app world
  grounded : ∀ {α : Type} {routine : Routine σ α} {world : World σ}, world.hub.Reachable → routine.Provided app world →
    ∀ limit, (routine.run app limit world).2.hub.Grounded
  alone : ∀ {α : Type} {routine : Routine σ α} {world : World σ}, world.hub.Reachable → routine.Provided app world →
    ∀ limit hub own rest, routine.run app limit world = (rest, ⟨hub, own⟩) → ∀ leaf, hub.outfit? leaf = none →
      ∀ item < hub.items.size, (hub.items.get item).handler.leaf? ≠ some leaf

theorem staysGrounded (app : Application σ) : StaysGrounded app where
  life := lifetime_keepsRooted.allowsLife
  turns := allowsTurns_keepsRooted
  making := allowsMaking_keepsRooted
  provided := fun application _ _ uses _ => provided_of_uses application uses
  grounded := fun start provided limit => (reachable_run provided start limit).rooted.grounded
  alone := fun start provided limit hub own rest ran leaf bare item known => by
    have reached := reachable_run provided start limit
    rw [ran] at reached
    exact reached.rooted.alone bare known

end Routine

end LeafHub
