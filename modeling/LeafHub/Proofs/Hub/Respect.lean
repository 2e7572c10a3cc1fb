import LeafHub.Proofs.Hub.Growth
import LeafHub.Proofs.Hub.Housekeeping
import LeafHub.Proofs.Lifecycle.Operations

namespace LeafHub

open Hub Passage

namespace Stake

variable {stake : Stake} {other : LeafId}

theorem housekeeping (stake : Stake) : Housekeeping stake.Respects where
  toPassage := passage_respects stake
  logged := respects_log
  shelved := fun _ _ _ => respects_of_same rfl rfl rfl rfl rfl rfl rfl rfl
  entered := fun _ _ value listed sole => respects_store (fun own => (sole.cells _ own).2 listed) value sole

theorem cataloguing (stake : Stake) : Cataloguing stake.Respects where
  toPassage := passage_respects stake
  logged := respects_log
  catalogued := fun _ _ _ _ _ _ => respects_of_same rfl rfl rfl rfl rfl rfl rfl rfl

theorem respects_note {happening : Happening} (plain : happening.isPlain = true) :
    Act.Keeps stake.Respects (note happening) :=
  fun hub => respects_noted hub fun cell _ => by
    rw [(show Idle 0 happening from idle_of_plain plain).1]
    exact nofun

theorem respects_waitUntil (time : Nat) : Act.Keeps stake.Respects (waitUntil time) :=
  fun _ => respects_of_same rfl rfl rfl rfl rfl rfl rfl rfl

theorem respects_setBus (name : String) (bus : Bus) : Act.Keeps stake.Respects (setBus name bus) :=
  fun _ => respects_of_same rfl rfl rfl rfl rfl rfl rfl rfl

theorem respects_writeKeypad (name : String) (address : UInt8) : Attempt.Keeps stake.Respects (writeKeypad name address) :=
  keeps_writeKeypad (housekeeping stake).toLogging respects_setBus fun _ => respects_note rfl

/-- No part of the stake but its pins depends on a pin that has been asked for a level. -/
theorem Sole.asked {hub : Hub} (sole : stake.Sole hub) (pin : String) (level : Bool) : stake.Sole (hub.asked pin level) :=
  sole.of_cells rfl rfl rfl sole.known (fun item own => serves_of_same (sole.serves item own) rfl rfl) sole.clear

section Flags

theorem respects_retain (id : LeafId) : Act.Keeps stake.Respects (retain id) :=
  fun _ => respects_setLeaf rfl rfl

theorem respects_release (id : LeafId) : Act.Keeps stake.Respects (release id) :=
  fun _ => respects_setLeaf rfl rfl

theorem respects_marked (hub : Hub) (id : LeafId) (ready running : Bool) :
    stake.Respects hub { hub with leaves := hub.leaves.set id { hub.leaf id with ready, running } } :=
  respects_setLeaf rfl rfl

theorem respects_beginInit (id : LeafId) : Act.Keeps stake.Respects (beginInit id) :=
  (cataloguing stake).beginInit respects_marked ((cataloguing stake).registerLeaf id)

theorem respects_endInit (id : LeafId) (outcome : Except Fault Unit) : Act.Keeps stake.Respects (endInit id outcome) :=
  (cataloguing stake).endInit respects_marked id outcome

theorem respects_endStart (id : LeafId) (outcome : Except Fault Unit) : Act.Keeps stake.Respects (endStart id outcome) :=
  (cataloguing stake).endStart respects_marked id outcome

theorem respects_endStop (id : LeafId) (outcome : Except Fault Unit) : Act.Keeps stake.Respects (endStop id outcome) :=
  (cataloguing stake).endStop respects_marked id outcome

end Flags

/-- The leaves beside the one of the stake have no part in it. -/
theorem regime (stake : Stake) : Regime (· ≠ stake.leaf) stake.Respects where
  toHousekeeping := housekeeping stake
  noted := fun hub _ plain => respects_note plain hub
  bussed := fun _ _ => respects_of_same rfl rfl rfl rfl rfl rfl rfl rfl
  asked := fun hub _ _ _ apart holds sole =>
    (passage_respects stake).trans (respects_setPin (sole.clearLed apart holds).1 _ hub) (respects_note rfl _) sole
  lit := fun hub id state lit apart holds sole => by
    have clear := sole.clearLed apart holds
    have again : stake.Clear (.led { state with lit }) := clear
    exact respects_setContext apart again sole
  written := fun _ _ _ value apart owns sole => respects_store (sole.unowned apart owns) value sole
  counted := fun _ _ _ delta apart owns sole => respects_count (sole.unowned apart owns) delta sole
  scheduled := fun hub _ _ cells _ apart holds sole => respects_schedule (sole.clearKeypad apart holds cells rfl).1 _ hub sole
  scanned := fun hub id state scanning apart holds sole => by
    have clear := sole.clearKeypad apart holds
    have again : stake.Clear (.keypad { state with scanning }) := clear
    exact respects_setContext apart again sole
  rescheduled := fun hub _ _ cells _ _ apart holds sole =>
    respects_reschedule (sole.clearKeypad apart holds cells rfl).1 _ hub sole
  cancelled := fun hub _ _ cells _ apart holds sole => respects_cancel (sole.clearKeypad apart holds cells rfl).1 hub sole
  registerCommand := (cataloguing stake).registerCommand
  ledMade := fun _ _ _ apart holds _ => respects_installLed apart holds
  keypadMade := fun _ _ state apart _ _ => respects_installKeypad apart state

section Others

variable (apart : other ≠ stake.leaf)

include apart

theorem respects_ledPhase (phase : Phase) : Attempt.Keeps stake.Respects (ledPhase phase other) :=
  (regime stake).ledPhase apart phase

theorem respects_ledCommand (args : List String) : Act.Keeps stake.Respects (ledCommand other args) :=
  (regime stake).ledCommand apart args

theorem respects_keypadPhase (phase : Phase) : Attempt.Keeps stake.Respects (keypadPhase phase other) :=
  (regime stake).keypadPhase apart phase

theorem respects_keypadCommand (args : List String) : Act.Keeps stake.Respects (keypadCommand other args) :=
  (regime stake).keypadCommand apart args

end Others

section Turns

variable {hub : Hub} {queue : QueueId}

/-- A turn that does not start the item of the stake. -/
theorem respects_turned (started : ∀ item ∈ stake.item?, ((hub.queues.get queue).turn hub.clock).1 ≠ some item) :
    stake.Respects hub (hub.turned queue) := by
  have there (id : QueueId) : (hub.queues.set queue ((hub.queues.get queue).turn hub.clock).2).get id =
      if id = queue ∧ queue < hub.queues.size then ((hub.queues.get id).turn hub.clock).2 else hub.queues.get id :=
    get_turned hub queue id
  refine respects_queues ?_ (fun item member orderly => ?_) fun item member id _ unready undelayed => ?_
  · cases starts : ((hub.queues.get queue).turn hub.clock).1 with
    | none => exact adds_of_same rfl
    | some item =>
      refine adds_of_push ?_ (show _ = hub.journal.push (.began item (hub.items.get item).label) from rfl)
      exact fun _ _ => nofun
  · rw [there]
    split
    · rename_i here
      refine orderly.bides_turn ?_
      rw [here.1]
      exact started item member
    · exact (WorkQueue.Spares.refl item _).bides orderly
  · rw [there]
    split
    · exact (WorkQueue.absent_turn unready undelayed hub.clock).2
    · exact ⟨unready, undelayed⟩

/-- The item of the stake may be started. Only its own queue can do that. -/
theorem Sole.turned (sole : stake.Sole hub) (queue : QueueId) : stake.Sole (hub.turned queue) := by
  by_cases other : ∀ item ∈ stake.item?, ((hub.queues.get queue).turn hub.clock).1 ≠ some item
  · exact (respects_turned other sole).2
  · simp only [not_forall, not_not] at other
    obtain ⟨item, member, starts⟩ := other
    have serves := sole.serves item member
    obtain rfl := serves.own_queue starts
    obtain ⟨_, closed, owners⟩ := serves.orderly.waits_of_starts starts
    have there : (hub.turned ownQueue).queues.get ownQueue = ((hub.queues.get ownQueue).turn hub.clock).2 :=
      Pool.get_set_same (known_of_owned serves.owned) _
    refine sole.of_cells rfl rfl rfl sole.known (fun other mine => ?_) sole.clear
    obtain rfl := Option.mem_unique mine member
    refine serves.of_queue rfl there (serves.orderly.turn hub.clock) closed owners fun id apart => ?_
    have same : (hub.turned ownQueue).queues.get id = hub.queues.get id := Pool.get_set_other apart _
    rw [same]
    exact serves.elsewhere id apart

theorem respects_runHandler {handler : WorkHandler} (apart : handler.leaf? ≠ some stake.leaf) :
    Act.Keeps stake.Respects (runHandler handler) :=
  (regime stake).runHandler fun _ serves same => apart (same ▸ serves)

/-- A turn that does not run the leaf. -/
theorem respects_takeTurn (apart : ∀ item, ((hub.queues.get queue).turn hub.clock).1 = some item →
    (hub.items.get item).handler.leaf? ≠ some stake.leaf) : stake.Respects hub ((takeTurn queue).run hub).2 := by
  intro sole
  have turned : stake.Respects hub (hub.turned queue) := respects_turned fun item member starts =>
    apart item starts (sole.serves item member).handler
  rw [run_takeTurn]
  split
  · rename_i item starts
    exact (passage_respects stake).trans turned (respects_runHandler (apart item starts) _) sole
  · exact turned sole

end Turns

section Queues

theorem respects_newQueue : Act.Keeps stake.Respects newQueue := by
  intro hub sole
  refine respects_queues (adds_of_same rfl) (fun item member orderly => ?_) (fun item _ id _ unready undelayed => ?_) sole
  · rw [Pool.get_add_old (known_of_owned (sole.serves item member).owned)]
    exact (WorkQueue.Spares.refl item _).bides orderly
  · rw [Pool.get_add]
    split
    · simp [WorkQueue.fresh]
    · exact ⟨unready, undelayed⟩

/-- Closing and owning of a queue that is not the hub's own. -/
theorem respects_setQueue {id : QueueId} (apart : id ≠ ownQueue) {hub : Hub} {queue : WorkQueue}
    (ready : queue.ready ⊆ (hub.queues.get id).ready) (delayed : queue.delayed ⊆ (hub.queues.get id).delayed) :
    stake.Respects hub ((setQueue id queue).run hub).2 := by
  refine respects_queues (adds_of_same rfl) (fun item _ orderly => ?_) fun item _ other _ unready undelayed => ?_
  · rw [Pool.get_set_other apart.symm]
    exact (WorkQueue.Spares.refl item _).bides orderly
  · rw [Pool.get_set]
    split
    · rename_i here
      rw [here.1] at unready undelayed
      exact ⟨fun member => unready (ready member), fun member => undelayed (List.map_subset _ delayed member)⟩
    · exact ⟨unready, undelayed⟩

theorem respects_newItem {item : WorkItem} (apart : item.handler.leaf? ≠ some stake.leaf) :
    Act.Keeps stake.Respects (newItem item) := by
  intro hub sole
  have same (old : ItemId) (known : old < hub.items.size) : (hub.items.add item).get old = hub.items.get old :=
    Pool.get_add_old known item
  show stake.Spared hub { hub with items := hub.items.add item } ∧ stake.Sole { hub with items := hub.items.add item }
  constructor
  · exact spared_of_cells rfl rfl rfl rfl (fun _ _ => rfl)
      (fun own member => bides_of_same (same own (sole.serves own member).known) rfl (fun _ => Iff.rfl) fun _ _ => rfl)
      (adds_of_same rfl)
  · refine sole.of_cells rfl rfl rfl sole.known (fun own member => ?_) sole.clear
    refine (sole.serves own member).of_items rfl (by simp) same fun new unknown known => ?_
    rw [Pool.get_add, if_pos (Pool.eq_size_of_new unknown known)]
    exact apart

end Queues

section Shell

theorem respects_storeText {hub : Hub} {id : CellId} (apart : id ∉ stake.cells) (text : String) :
    stake.Respects hub ((storeText id text).run.run hub).2 :=
  keeps_storeText (passage_respects stake) (respects_store apart) text

/-- What is typed for a variable that has the name of no cell of the stake. -/
theorem respects_setValue (name : String) (words : List String) (apart : name ∉ stake.names) :
    Act.Keeps stake.Respects (Shell.setValue name words) := by
  refine (passage_respects stake).setValue (fun hub id found value sole => ?_) words
  have met := List.find?_some found
  have named : (hub.cell id).name = name := of_decide_eq_true met
  exact respects_store (fun own => apart (named ▸ sole.named id own)) value sole

end Shell

end Stake

namespace Hub

section Mistaken

variable {hub : Hub} {leaf : LeafId}

theorem run_ledPhase_of_none (none : hub.led? leaf = none) (phase : Phase) :
    ((ledPhase phase leaf).run.run hub).2 = hub := by
  cases phase with
  | init => exact congrArg Prod.snd (run_ledOf_of_none none _)
  | start => exact congrArg Prod.snd (run_ledOf_of_none none _)
  | stop => exact congrArg Prod.snd (run_ledOf_of_none none _)
  | preSleep => exact congrArg Prod.snd (run_ledOf_of_none none _)
  | postSleep =>
    show (StateT.run (ExceptT.run ((do if ((← get).leaf leaf).running then applyLed leaf) : Attempt Unit)) hub).2 = hub
    rw [Attempt.run_bind, Attempt.run_get]
    dsimp only
    split
    · exact congrArg Prod.snd (run_ledOf_of_none none _)
    · rfl

theorem run_ledCommand_of_none (none : hub.led? leaf = none) (args : List String) :
    ((ledCommand leaf args).run hub).2 = hub := by
  unfold ledCommand
  rw [Act.run_bind_of (Act.run_get hub)]
  split
  · show (StateT.run (ExceptT.run (runLedCommand leaf args)) hub).2 = hub
    unfold runLedCommand ledCellsOf
    rw [bind_assoc]
    exact congrArg Prod.snd (run_ledOf_of_none none _)
  · rfl

theorem run_ledChanged_of_none (none : hub.led? leaf = none) : (ledChanged leaf).run hub = ((), hub) :=
  run_ledChanged_of_idle (by simp [none])

end Mistaken

end Hub

end LeafHub
