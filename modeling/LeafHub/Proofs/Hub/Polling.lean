import LeafHub.Proofs.Hub.FirstInit
import LeafHub.Proofs.Hub.StakeAct

namespace LeafHub

open Hub Passage

/-- The stake of a keypad in the item that scans it. -/
def Stake.ofScans (leaf : LeafId) (item : ItemId) : Stake where
  leaf
  item? := some item
  cells := []
  names := []
  pins := []

namespace Hub

/-- Whether a keypad is told to scan. -/
def isScanning (hub : Hub) (leaf : LeafId) : Bool :=
  (hub.keypad? leaf).any (·.scanning)

/-- A keypad has its cells, and nobody else has a part in the item that scans it. -/
structure Keyed (hub : Hub) (leaf : LeafId) (bus : String) (cells : KeypadCells) : Prop where
  holds : hub.keypad? leaf = some ⟨bus, some cells, hub.isScanning leaf⟩
  sole : (Stake.ofScans leaf cells.scan).Sole hub
  handler : (hub.items.get cells.scan).handler = .keypadScan leaf
  unheard : ∀ cell, ¬hub.Attached cells.scan cell

/-- A keypad scans exactly while its item waits. -/
structure Polls (hub : Hub) (leaf : LeafId) (bus : String) (cells : KeypadCells) : Prop
    extends Keyed hub leaf bus cells where
  waits : hub.isScanning leaf = true ↔ hub.Waits cells.scan

/-- The flag of a keypad is as it was, and the keypad has what it had. -/
def SameKeyed (leaf : LeafId) (bus : String) (cells : KeypadCells) (hub after : Hub) : Prop :=
  hub.Keyed leaf bus cells → after.isScanning leaf = hub.isScanning leaf ∧ after.Keyed leaf bus cells

/-- As `SameKeyed`, and the item waits if and only if it did so before. -/
def SamePolls (leaf : LeafId) (bus : String) (cells : KeypadCells) (hub after : Hub) : Prop :=
  hub.Polls leaf bus cells → after.isScanning leaf = hub.isScanning leaf ∧ after.Polls leaf bus cells

section Scans

variable {hub after : Hub} {leaf : LeafId} {bus : String} {cells : KeypadCells}

theorem isScanning_of_keypad? {scanning : Bool} (holds : hub.keypad? leaf = some ⟨bus, some cells, scanning⟩) :
    hub.isScanning leaf = scanning := by
  rw [isScanning, holds]
  rfl

theorem passage_sameScanning (leaf : LeafId) : Passage fun hub after => after.isScanning leaf = hub.isScanning leaf where
  refl := fun _ => rfl
  trans := fun first second => second.trans first

theorem passage_sameKeyed (leaf : LeafId) (bus : String) (cells : KeypadCells) : Passage (SameKeyed leaf bus cells) :=
  (passage_sameScanning leaf).under _

theorem passage_samePolls (leaf : LeafId) (bus : String) (cells : KeypadCells) : Passage (SamePolls leaf bus cells) :=
  (passage_sameScanning leaf).under _

theorem Keyed.not_led (keyed : hub.Keyed leaf bus cells) : hub.led? leaf = none :=
  led?_of_keypad? keyed.holds

section Spared

variable (respects : (Stake.ofScans leaf cells.scan).Respects hub after)

include respects

theorem Keyed.spared (keyed : hub.Keyed leaf bus cells) :
    after.isScanning leaf = hub.isScanning leaf ∧ after.Keyed leaf bus cells ∧ hub.Bides cells.scan after := by
  obtain ⟨spared, sole⟩ := respects keyed.sole
  have context : (after.leaf leaf).context = (hub.leaf leaf).context := spared.context
  have keypad : after.keypad? leaf = hub.keypad? leaf := by rw [keypad?, keypad?, context]
  have same : after.isScanning leaf = hub.isScanning leaf := by rw [isScanning, isScanning, keypad]
  have bides : hub.Bides cells.scan after := spared.items _ rfl
  refine ⟨same, ?_, bides⟩
  exact
    { holds := keypad.trans (same.symm ▸ keyed.holds)
      sole := sole
      handler := bides.same.symm ▸ keyed.handler
      unheard := fun cell attached => keyed.unheard cell ((bides.attached cell).mp attached) }

theorem sameKeyed_of_respects : SameKeyed leaf bus cells hub after := fun keyed =>
  ⟨(keyed.spared respects).1, (keyed.spared respects).2.1⟩

theorem samePolls_of_respects : SamePolls leaf bus cells hub after := by
  intro polls
  obtain ⟨same, keyed, bides⟩ := polls.toKeyed.spared respects
  refine ⟨same, keyed, ?_⟩
  rw [same, polls.waits]
  refine ⟨bides.waits, fun waits => ?_⟩
  rcases bides.idle waits with before | ⟨cell, attached⟩
  · exact before
  · exact absurd attached (polls.unheard cell)

end Spared

/-- What the keypad does while it scans is none of its item's business. -/
theorem Keyed.respects_leafStep (keyed : hub.Keyed leaf bus cells) (step : LeafStep leaf hub after) :
    (Stake.ofScans leaf cells.scan).Respects hub after := by
  cases step with
  | noted happening plain => exact Stake.respects_note plain hub
  | bussed buses => exact Stake.respects_of_same rfl rfl rfl rfl rfl rfl rfl rfl
  | drove state lit led => exact absurd (keyed.not_led.symm.trans led) nofun
  | stored cell value => exact Stake.respects_store List.not_mem_nil value
  | counted cell delta => exact Stake.respects_count List.not_mem_nil delta

theorem sameKeyed_leafWork (work : LeafWork leaf hub after) : SameKeyed leaf bus cells hub after :=
  work.within (passage_sameKeyed leaf bus cells) fun step keyed =>
    sameKeyed_of_respects (keyed.respects_leafStep step) keyed

theorem samePolls_leafWork (work : LeafWork leaf hub after) : SamePolls leaf bus cells hub after :=
  work.within (passage_samePolls leaf bus cells) fun step polls =>
    samePolls_of_respects (polls.toKeyed.respects_leafStep step) polls

theorem housekeeping_samePolls (leaf : LeafId) (bus : String) (cells : KeypadCells) :
    Housekeeping (SamePolls leaf bus cells) where
  toPassage := passage_samePolls leaf bus cells
  logged := fun level line hub => samePolls_of_respects (Stake.respects_log level line hub)
  shelved := fun name medium hub => samePolls_of_respects ((Stake.housekeeping _).shelved name medium hub)
  entered := fun hub id value listed => samePolls_of_respects ((Stake.housekeeping _).entered hub id value listed)

theorem adjustsWithin_samePolls (leaf : LeafId) (bus : String) (cells : KeypadCells) :
    AdjustsWithin (SamePolls leaf bus cells) leaf :=
  fun _ _ value _ => samePolls_of_respects (Stake.respects_store List.not_mem_nil value)

theorem samePolls_initKeypad : Attempt.Keeps (SamePolls leaf bus cells) (initKeypad leaf) := by
  refine (housekeeping_samePolls leaf bus cells).initKeypad (fun hub state holds bare polls => ?_)
    (fun bus address hub => samePolls_of_respects (Stake.respects_writeKeypad bus address hub))
    (adjustsWithin_samePolls leaf bus cells)
    fun command hub => samePolls_of_respects ((Stake.cataloguing _).registerCommand command hub)
  rw [polls.holds] at holds
  cases holds
  cases bare

/-- The flag of the keypad is set. Its item has not heard of it yet. -/
theorem Keyed.flagged (keyed : hub.Keyed leaf bus cells) (scanning : Bool) :
    ((setContext leaf (.keypad ⟨bus, some cells, scanning⟩)).run hub).2.isScanning leaf = scanning ∧
      ((setContext leaf (.keypad ⟨bus, some cells, scanning⟩)).run hub).2.Keyed leaf bus cells := by
  have held : ((setContext leaf (.keypad ⟨bus, some cells, scanning⟩)).run hub).2.keypad? leaf =
      some ⟨bus, some cells, scanning⟩ := by
    rw [keypad?_eq_some, Hub.leaf]
    exact congrArg Leaf.context (Pool.get_set_same keyed.sole.known _)
  have flag := isScanning_of_keypad? held
  exact ⟨flag, held.trans (flag.symm ▸ rfl), keyed.sole.setContext _, keyed.handler, keyed.unheard⟩

/-- The queue is asked about the item of the keypad so that the answer fits the flag. -/
theorem Keyed.asked (keyed : hub.Keyed leaf bus cells) (ask : WorkQueue → Bool × WorkQueue)
    (orderly : ∀ queue : WorkQueue, queue.Orderly → (ask queue).2.Orderly)
    (closed : (ask (hub.queues.get ownQueue)).2.closed = (hub.queues.get ownQueue).closed)
    (owners : (ask (hub.queues.get ownQueue)).2.owners = (hub.queues.get ownQueue).owners)
    (waits : hub.isScanning leaf = true ↔ cells.scan ∈ (ask (hub.queues.get ownQueue)).2.ready ∨
      cells.scan ∈ (ask (hub.queues.get ownQueue)).2.delayed.map Prod.snd) :
    ((askQueue cells.scan ask).run hub).2.isScanning leaf = hub.isScanning leaf ∧
      ((askQueue cells.scan ask).run hub).2.Polls leaf bus cells := by
  obtain ⟨queues, asked, serves, own⟩ := (keyed.sole.serves cells.scan rfl).asked ask orderly closed owners
  rw [asked]
  refine ⟨rfl, ⟨keyed.holds, keyed.sole.requeue fun item member => ?_, keyed.handler, keyed.unheard⟩, ?_⟩
  · cases member
    exact serves
  · rw [serves.waits_iff]
    exact own ▸ waits

theorem Keyed.startScan (keyed : hub.Keyed leaf bus cells) :
    ((startScan leaf).run.run hub).2.isScanning leaf = true ∧ ((startScan leaf).run.run hub).2.Polls leaf bus cells := by
  obtain ⟨flag, later⟩ := keyed.flagged true
  obtain ⟨delayed, closed, owners⟩ :=
    WorkQueue.reschedule_self (keyed.sole.serves cells.scan rfl).opened cells.scan (hub.clock + 0)
  obtain ⟨same, polls⟩ := later.asked (fun queue => queue.reschedule cells.scan (hub.clock + 0))
    (fun _ orderly => orderly.reschedule _ _) closed owners ⟨fun _ => .inr delayed, fun _ => flag⟩
  unfold Hub.startScan
  rw [Attempt.run_bind_of (run_keypadOf keyed.holds)]
  exact ⟨same.trans flag, polls⟩

theorem Keyed.stopScan (keyed : hub.Keyed leaf bus cells) :
    ((stopScan leaf).run.run hub).2.isScanning leaf = false ∧ ((stopScan leaf).run.run hub).2.Polls leaf bus cells := by
  obtain ⟨flag, later⟩ := keyed.flagged false
  obtain ⟨unready, undelayed, closed, owners⟩ :=
    WorkQueue.cancel_self (keyed.sole.serves cells.scan rfl).orderly cells.scan
  obtain ⟨same, polls⟩ := later.asked (fun queue => queue.cancel cells.scan) (fun _ orderly => orderly.cancel _) closed
    owners ⟨fun scans => absurd (flag.symm.trans scans) nofun, fun waits => (waits.elim unready undelayed).elim⟩
  unfold Hub.stopScan
  rw [Attempt.run_bind_of (run_keypadOf keyed.holds)]
  exact ⟨same.trans flag, polls⟩

theorem Keyed.scanAgain (keyed : hub.Keyed leaf bus cells) (scans : hub.isScanning leaf = true) :
    ((scanAgain leaf).run hub).2.isScanning leaf = true ∧ ((scanAgain leaf).run hub).2.Polls leaf bus cells := by
  obtain ⟨delayed, closed, owners⟩ := WorkQueue.schedule_self (keyed.sole.serves cells.scan rfl).opened cells.scan
    (hub.clock + hub.keypadPeriod cells)
  obtain ⟨same, polls⟩ := keyed.asked (fun queue => queue.schedule cells.scan (hub.clock + hub.keypadPeriod cells))
    (fun _ orderly => orderly.schedule _ _) closed owners ⟨fun _ => .inr delayed, fun _ => scans⟩
  have holds := keyed.holds
  rw [scans] at holds
  unfold Hub.scanAgain
  rw [Act.run_bind_of (Act.run_get hub), holds]
  exact ⟨same.trans scans, polls⟩

/-- Whatever comes of a scan, the keypad asks for the next one. -/
theorem Keyed.tickKeypad (keyed : hub.Keyed leaf bus cells) (scans : hub.isScanning leaf = true)
    (alive : hub.isAlive leaf = true) :
    ((tickKeypad leaf).run hub).2.isScanning leaf = true ∧ ((tickKeypad leaf).run hub).2.Polls leaf bus cells := by
  obtain ⟨same, scanned⟩ := sameKeyed_leafWork (leafWork_scanKeypad hub) keyed
  obtain ⟨after, ran, rfl | ⟨line, rfl⟩⟩ := run_tickKeypad keyed.holds alive
  · rw [ran]
    exact scanned.scanAgain (same.trans scans)
  · obtain ⟨still, logged⟩ := sameKeyed_of_respects (Stake.respects_log .debug line _) scanned
    rw [ran]
    exact logged.scanAgain (still.trans (same.trans scans))

/-- Only the keypad's own item scans the keypad. -/
theorem Keyed.own_item (keyed : hub.Keyed leaf bus cells) {item : ItemId}
    (scans : (hub.items.get item).handler = .keypadScan leaf) : item = cells.scan := by
  rcases Nat.lt_or_ge item hub.items.size with known | unknown
  · exact (keyed.sole.serves cells.scan rfl).alone item known (scans.trans keyed.handler.symm)
  · rw [Pool.get_unknown unknown] at scans
    cases scans

theorem samePolls_runHandler {handler : WorkHandler} (other : handler ≠ .keypadScan leaf) :
    Act.Keeps (SamePolls leaf bus cells) (runHandler handler) := by
  intro hub polls
  by_cases own : handler.leaf? = some leaf
  · cases handler with
    | ledChange led =>
      cases own
      have idle : ((runHandler (.ledChange leaf)).run hub).2 = hub := by
        show ((ledChanged leaf).run hub).2 = hub
        rw [run_ledChanged_of_none polls.not_led]
      rw [idle]
      exact ⟨rfl, polls⟩
    | keypadScan keypad =>
      cases own
      exact absurd rfl other
    | custom behaviour => cases own
  · exact samePolls_of_respects (Stake.respects_runHandler own hub) polls

/-- What a turn of its queue leaves when it starts the item of the keypad. -/
theorem Polls.started (polls : hub.Polls leaf bus cells) {queue : QueueId}
    (starts : ((hub.queues.get queue).turn hub.clock).1 = some cells.scan) :
    hub.isScanning leaf = true ∧ (hub.turned queue).Keyed leaf bus cells := by
  have serves := polls.sole.serves cells.scan rfl
  obtain rfl := serves.own_queue starts
  obtain ⟨waits, _, _⟩ := serves.orderly.waits_of_starts starts
  exact ⟨polls.waits.mpr (serves.waits_iff.mpr waits), polls.holds, polls.sole.turned ownQueue, polls.handler, polls.unheard⟩

/-- A turn of any queue leaves the flag as it is. -/
theorem Polls.takeTurn (polls : hub.Polls leaf bus cells) (alive : hub.isAlive leaf = true) (queue : QueueId) :
    ((takeTurn queue).run hub).2.isScanning leaf = hub.isScanning leaf ∧
      ((takeTurn queue).run hub).2.Polls leaf bus cells := by
  have aside (other : ((hub.queues.get queue).turn hub.clock).1 ≠ some cells.scan) :
      SamePolls leaf bus cells hub (hub.turned queue) :=
    samePolls_of_respects (Stake.respects_turned fun item member => Option.some.inj member ▸ other)
  rw [run_takeTurn]
  split
  · rename_i started starts
    by_cases own : started = cells.scan
    · subst own
      obtain ⟨scans, keyed⟩ := polls.started starts
      obtain ⟨again, later⟩ := keyed.tickKeypad scans alive
      rw [polls.handler, scans]
      exact ⟨again, later⟩
    · have handler : (hub.items.get started).handler ≠ .keypadScan leaf := mt polls.own_item own
      have elsewhere : ((hub.queues.get queue).turn hub.clock).1 ≠ some cells.scan := by
        rw [starts]
        exact fun same => own (Option.some.inj same)
      exact (passage_samePolls leaf bus cells).trans (aside elsewhere) (samePolls_runHandler handler _) polls
  · rename_i starts
    exact aside (by rw [starts]; exact nofun) polls

/-- The class is told to start. -/
theorem Keyed.startPhase (keyed : hub.Keyed leaf bus cells) :
    ((keypadPhase .start leaf).run.run hub).2.isScanning leaf = true ∧
      ((keypadPhase .start leaf).run.run hub).2.Polls leaf bus cells := by
  unfold keypadPhase
  rw [Attempt.run_bind, Attempt.run_get]
  dsimp only
  rw [Attempt.run_bind, Attempt.run_lift]
  exact (sameKeyed_of_respects (Stake.respects_log _ _ hub) keyed).2.startScan

theorem Keyed.stopPhase (keyed : hub.Keyed leaf bus cells) :
    ((keypadPhase .stop leaf).run.run hub).2.isScanning leaf = false ∧
      ((keypadPhase .stop leaf).run.run hub).2.Polls leaf bus cells := by
  unfold keypadPhase
  rw [Attempt.run_bind, Attempt.run_get]
  dsimp only
  rw [Attempt.run_bind, Attempt.run_lift]
  exact (sameKeyed_of_respects (Stake.respects_log _ _ hub) keyed).2.stopScan

/-- Once it has been inited, a keypad polls, also if the init failed. -/
theorem Grounded.polls (grounded : hub.Grounded) (holds : hub.keypad? leaf = some ⟨bus, none, false⟩)
    (alone : ∀ item < hub.items.size, (hub.items.get item).handler ≠ .keypadScan leaf) :
    ((keypadPhase .init leaf).run.run hub).2.isScanning leaf = false ∧
      ((keypadPhase .init leaf).run.run hub).2.Polls leaf bus hub.nextKeypad := by
  obtain ⟨lines, ran⟩ := run_first_keypadPhase holds
  have configured := (housekeeping_samePolls leaf bus hub.nextKeypad).configureKeypad
    (fun bus address hub => samePolls_of_respects (Stake.respects_writeKeypad bus address hub))
    (adjustsWithin_samePolls leaf bus hub.nextKeypad).keypad
    (fun command hub => samePolls_of_respects ((Stake.cataloguing _).registerCommand command hub))
  have held : (hub.keypadMade leaf bus false lines).keypad? leaf = some ⟨bus, some hub.nextKeypad, false⟩ :=
    keypad?_made lines (known_of_context (keypad?_eq_some.mp holds))
  have flag : (hub.keypadMade leaf bus false lines).isScanning leaf = false := isScanning_of_keypad? held
  have sole : (Stake.ofScans leaf hub.nextKeypad.scan).Sole (hub.keypadMade leaf bus false lines) :=
    grounded.sole_keypad lines holds rfl (fun _ member => ⟨(Option.some.inj member).symm, alone⟩)
      (fun _ own => absurd own List.not_mem_nil) rfl
  have handler : ((hub.keypadMade leaf bus false lines).items.get hub.nextKeypad.scan).handler = .keypadScan leaf := by
    rw [item_made]
  have unheard (cell : CellId) : ¬(hub.keypadMade leaf bus false lines).Attached hub.nextKeypad.scan cell := by
    intro attached
    rcases Nat.lt_or_ge cell hub.cells.size with old | new
    · have before : (hub.keypadMade leaf bus false lines).cell cell = hub.cell cell := (extends_keypad hub leaf lines).cells cell old
      rw [Attached, before] at attached
      exact absurd (grounded.heard cell _ attached) (Nat.lt_irrefl _)
    · have nobody : ((hub.keypadGrowth leaf lines).cells.get cell).subscriber = none := subscriber_keypad new
      exact absurd (attached.symm.trans nobody) (Option.some_ne_none _)
  have idle : ¬(hub.keypadMade leaf bus false lines).Waits hub.nextKeypad.scan := by
    rw [(sole.serves _ rfl).waits_iff]
    obtain ⟨unready, undelayed⟩ := grounded.new_item (Nat.le_refl hub.items.size)
    exact fun waits => waits.elim unready undelayed
  have made : (hub.keypadMade leaf bus false lines).Polls leaf bus hub.nextKeypad :=
    { holds := held.trans (flag.symm ▸ rfl)
      sole := sole
      handler := handler
      unheard := unheard
      waits := by
        rw [flag]
        exact ⟨fun scans => absurd scans Bool.false_ne_true, fun waits => absurd waits idle⟩ }
  obtain ⟨same, polls⟩ := configured (hub.leaf leaf).name bus (hub.keypadMade leaf bus false lines) made
  rw [ran]
  exact ⟨same.trans flag, polls⟩

end Scans

end Hub

/-- The acts that tell a keypad to scan. -/
inductive StartsScan (leaf : LeafId) : {β : Type} → Act β → Prop
  | phase : StartsScan leaf (keypadPhase .start leaf).run
  | command : StartsScan leaf (keypadCommand leaf ["start"])

/-- The acts that tell a keypad to stop scanning. -/
inductive StopsScan (leaf : LeafId) : {β : Type} → Act β → Prop
  | phase : StopsScan leaf (keypadPhase .stop leaf).run
  | command : StopsScan leaf (keypadCommand leaf ["stop"])

namespace Hub

variable {leaf : LeafId} {bus : String} {cells : KeypadCells} {β : Type} {act : Act β} {hub : Hub}

theorem Keyed.starts (keyed : hub.Keyed leaf bus cells) (alive : hub.isAlive leaf = true) (starts : StartsScan leaf act) :
    (act.run hub).2.isScanning leaf = true ∧ (act.run hub).2.Polls leaf bus cells := by
  cases starts with
  | phase => exact keyed.startPhase
  | command =>
    rw [run_keypadCommand_of keyed.holds alive rfl]
    exact keyed.startScan

theorem Keyed.stops (keyed : hub.Keyed leaf bus cells) (alive : hub.isAlive leaf = true) (stops : StopsScan leaf act) :
    (act.run hub).2.isScanning leaf = false ∧ (act.run hub).2.Polls leaf bus cells := by
  cases stops with
  | phase => exact keyed.stopPhase
  | command =>
    rw [run_keypadCommand_of keyed.holds alive rfl]
    exact keyed.stopScan

/-- Nothing else that a keypad does changes its flag. -/
theorem samePolls_leafAct (own : LeafAct leaf act) (starts : ¬StartsScan leaf act) (stops : ¬StopsScan leaf act) :
    act.Keeps (SamePolls leaf bus cells) := by
  have keeping := housekeeping_samePolls leaf bus cells
  cases own with
  | led phase =>
    intro hub polls
    have idle : ((ledPhase phase leaf).run.run hub).2 = hub := run_ledPhase_of_none polls.not_led phase
    rw [idle]
    exact ⟨rfl, polls⟩
  | ledCommand args =>
    intro hub polls
    rw [run_ledCommand_of_none polls.not_led]
    exact ⟨rfl, polls⟩
  | keypad phase =>
    refine keeping.keypadPhase (fun _ => samePolls_initKeypad) (fun same => ?_) fun same => ?_
    · exact absurd (same ▸ .phase) starts
    · exact absurd (same ▸ .phase) stops
  | keypadCommand args =>
    refine keeping.keypadCommand (fun _ hub => samePolls_leafWork (leafWork_scanKeypad hub)) (fun same => ?_)
      (fun same => ?_) (adjustsWithin_samePolls leaf bus cells)
    · exact absurd (same ▸ .command) starts
    · exact absurd (same ▸ .command) stops

theorem Polls.step (polls : hub.Polls leaf bus cells) (alive : hub.isAlive leaf = true)
    (fine : StakeAct (.ofScans leaf cells.scan) act) :
    (act.run hub).2.Polls leaf bus cells ∧
      (¬StartsScan leaf act → ¬StopsScan leaf act → (act.run hub).2.isScanning leaf = hub.isScanning leaf) := by
  cases fine with
  | aside respects =>
    obtain ⟨same, later⟩ := samePolls_of_respects (respects hub) polls
    exact ⟨later, fun _ _ => same⟩
  | turn queue =>
    obtain ⟨same, later⟩ := polls.takeTurn alive queue
    exact ⟨later, fun _ _ => same⟩
  | own own =>
    by_cases starts : StartsScan leaf act
    · exact ⟨(polls.toKeyed.starts alive starts).2, fun other => absurd starts other⟩
    · by_cases stops : StopsScan leaf act
      · exact ⟨(polls.toKeyed.stops alive stops).2, fun _ other => absurd stops other⟩
      · obtain ⟨same, later⟩ := samePolls_leafAct own starts stops hub polls
        exact ⟨later, fun _ _ => same⟩

end Hub

end LeafHub
