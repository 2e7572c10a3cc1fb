import LeafHub.Proofs.Hub.FirstInit
import LeafHub.Proofs.Hub.KeyScan
import LeafHub.Proofs.Hub.StakeAct

namespace LeafHub

open Hub Passage

namespace Hub

variable {hub after : Hub} {leaf : LeafId} {bus : String} {cells : KeypadCells} {names : List String} {β : Type}
  {act : Act β}

section Same

theorem housekeeping_sameKeys (leaf : LeafId) (bus : String) (cells : KeypadCells) (names : List String) :
    Housekeeping (SameKeys leaf bus cells names) where
  toPassage := passage_sameKeys leaf bus cells names
  logged := fun level line hub => sameKeys_of_respects (Stake.respects_log level line hub)
  shelved := fun name medium hub => sameKeys_of_respects ((Stake.housekeeping _).shelved name medium hub)
  entered := fun hub id value listed => sameKeys_of_respects ((Stake.housekeeping _).entered hub id value listed)

theorem adjustsWithin_sameKeys (leaf : LeafId) (bus : String) (cells : KeypadCells) (names : List String) :
    AdjustsWithin (SameKeys leaf bus cells names) leaf := by
  intro hub cell value adjusts keys
  obtain ⟨scanning, holds⟩ := keys.holds
  cases adjusts with
  | led led =>
    have context := keypad?_eq_some.mp holds
    rw [led?_eq_some.mp led] at context
    cases context
  | keypad keypad member =>
    rw [keypad] at holds
    cases holds
    exact sameKeys_of_respects (Stake.respects_store (keys.others cell member) value) keys

theorem Keys.not_led (keys : hub.Keys leaf bus cells names) : hub.led? leaf = none := by
  obtain ⟨scanning, holds⟩ := keys.holds
  exact led?_of_keypad? holds

theorem sameKeys_registerCommand (command : Command) :
    Attempt.Keeps (SameKeys leaf bus cells names) (registerCommand command) :=
  fun hub => sameKeys_of_respects ((Stake.cataloguing _).registerCommand command hub)

/-- Whether the keypad is told to scan does not matter for its keys. -/
theorem sameKeys_flagged {scanning : Bool} (hub : Hub) : SameKeys leaf bus cells names hub
    ((setContext leaf (.keypad ⟨bus, some cells, scanning⟩)).run hub).2 := by
  intro keys
  have held := keypad?_setContext keys.sole.known ⟨bus, some cells, scanning⟩
  constructor
  · exact ⟨fun _ _ => rfl, fun _ _ => rfl, (List.append_nil _).symm, fun _ member => absurd member List.not_mem_nil⟩
  · exact
      { holds := ⟨scanning, held⟩
        sole := keys.sole.setContext _
        apart := keys.apart
        others := keys.others
        byte := keys.byte
        event := keys.event
        addressed := keys.addressed }

theorem sameKeys_switchScan {scanning : Bool} {ask : ItemId → Act Bool}
    (asked : ∀ item, Act.Keeps (SameKeys leaf bus cells names) (ask item)) :
    Attempt.Keeps (SameKeys leaf bus cells names) (switchScan scanning ask leaf) := by
  intro hub keys
  refine keeps_switchScan (passage_sameKeys leaf bus cells names) (housekeeping_sameKeys leaf bus cells names).logged
    (fun state holds => ?_) (fun _ cells _ _ => asked cells.scan _) keys
  obtain ⟨_, held⟩ := keys.holds
  rw [held] at holds
  cases holds
  exact sameKeys_flagged hub

theorem sameKeys_startScan : Attempt.Keeps (SameKeys leaf bus cells names) (startScan leaf) := by
  rw [startScan_eq]
  exact sameKeys_switchScan fun _ hub => sameKeys_of_respects (Stake.respects_reschedule (Option.not_mem_none _) 0 hub)

theorem sameKeys_stopScan : Attempt.Keeps (SameKeys leaf bus cells names) (stopScan leaf) := by
  rw [stopScan_eq]
  exact sameKeys_switchScan fun _ hub => sameKeys_of_respects (Stake.respects_cancel (Option.not_mem_none _) hub)

theorem sameKeys_configureKeypad (name peer : String) :
    Attempt.Keeps (SameKeys leaf bus cells names) (configureKeypad leaf name peer) :=
  (housekeeping_sameKeys leaf bus cells names).configureKeypad
    (fun peer address hub => sameKeys_of_respects (Stake.respects_writeKeypad peer address hub))
    (adjustsWithin_sameKeys leaf bus cells names).keypad sameKeys_registerCommand name peer

theorem sameKeys_initKeypad : Attempt.Keeps (SameKeys leaf bus cells names) (initKeypad leaf) := by
  intro hub keys
  obtain ⟨scanning, holds⟩ := keys.holds
  obtain ⟨line, ran⟩ := run_initKeypad holds
  rw [ran, if_neg (show ¬Option.isNone (some cells) = true from nofun)]
  exact (passage_sameKeys leaf bus cells names).trans (sameKeys_of_respects (Stake.respects_log .info line hub))
    (sameKeys_configureKeypad _ bus _) keys

end Same

/-- The acts in which a keypad scans: its command, and a turn that starts an item that scans it. -/
inductive ScansKeys (hub : Hub) (leaf : LeafId) : {β : Type} → Act β → Prop
  | command : hub.isAlive leaf = true → ScansKeys hub leaf (keypadCommand leaf ["scan"])
  | turn {queue : QueueId} {item : ItemId} : hub.isAlive leaf = true →
      ((hub.queues.get queue).turn hub.clock).1 = some item → (hub.items.get item).handler = .keypadScan leaf →
        ScansKeys hub leaf (takeTurn queue)

/-- The acts of a leaf: what its class and its command do, and the turns that run it. -/
inductive Attends (hub : Hub) (leaf : LeafId) : {β : Type} → Act β → Prop
  | own {β : Type} {act : Act β} : LeafAct leaf act → Attends hub leaf act
  | turn {queue : QueueId} {item : ItemId} : ((hub.queues.get queue).turn hub.clock).1 = some item →
      (hub.items.get item).handler.leaf? = some leaf → Attends hub leaf (takeTurn queue)

section Adds

variable {sort : Happening → Prop}

theorem adds_schedule (item : ItemId) (delay : Nat) : Act.Keeps (Adds sort) (schedule item delay) := by
  unfold schedule
  exact Passage.look fun hub => adds_askQueue item _ hub

theorem adds_scanAgain (leaf : LeafId) : Act.Keeps (Adds sort) (scanAgain leaf) :=
  fun hub => keeps_scanAgain (passage_adds sort) fun _ _ _ => adds_schedule _ _ hub

/-- What settings and stores of them leave in the journal is in its lines and in what is stored. -/
theorem housekeeping_adds (lines : ∀ level line, sort (.log level line)) (stores : ∀ cell name value, sort (.stored cell name value)) :
    Housekeeping (Adds sort) where
  toPassage := passage_adds sort
  logged := adds_log lines
  shelved := fun _ _ _ => adds_of_same rfl
  entered := fun hub id value _ => adds_store lines (fun name => stores id name value) hub

theorem adds_turned (begins : ∀ item label, sort (.began item label)) (queue : QueueId) : Adds sort hub (hub.turned queue) := by
  cases starts : ((hub.queues.get queue).turn hub.clock).1 with
  | none => exact adds_of_same (by rw [Hub.turned, starts])
  | some item => exact adds_of_push (begins item _) (by rw [Hub.turned, starts])

theorem adds_startScan (lines : ∀ level line, sort (.log level line)) : Attempt.Keeps (Adds sort) (startScan leaf) := by
  intro hub
  rw [startScan_eq]
  exact keeps_switchScan (passage_adds sort) (adds_log lines) (fun _ _ => adds_of_same rfl)
    fun _ _ _ _ => Passage.look (fun hub => adds_askQueue _ _ hub) _

theorem adds_stopScan (lines : ∀ level line, sort (.log level line)) : Attempt.Keeps (Adds sort) (stopScan leaf) := by
  intro hub
  rw [stopScan_eq]
  exact keeps_switchScan (passage_adds sort) (adds_log lines) (fun _ _ => adds_of_same rfl)
    fun _ _ _ _ => adds_askQueue _ _ _

theorem cataloguing_adds (lines : ∀ level line, sort (.log level line)) : Cataloguing (Adds sort) where
  toPassage := passage_adds sort
  logged := adds_log lines
  catalogued := fun _ _ _ _ _ _ => adds_of_same rfl

theorem adds_writeKeypad (lines : ∀ level line, sort (.log level line)) {name : String} {address : UInt8}
    (transfers : ∀ transfer, sort (.bus name address transfer)) : Attempt.Keeps (Adds sort) (writeKeypad name address) :=
  keeps_writeKeypad (cataloguing_adds lines).toLogging (fun _ _ _ => adds_of_same rfl)
    fun transfer _ => adds_of_push (transfers transfer) rfl

end Adds

/-- What the init of a keypad writes goes where the setting points to at that moment. -/
theorem adds_configureKeypad {peer : String} {scanning : Bool} (holds : hub.keypad? leaf = some ⟨peer, some cells, scanning⟩)
    (name bus : String) : Adds (hub.Addressed bus cells) hub ((configureKeypad leaf name bus).run.run hub).2 := by
  have passage := passage_adds (hub.Addressed bus cells)
  have lines (level : Level) (line : String) : hub.Addressed bus cells (.log level line) := nofun
  unfold configureKeypad
  rw [Attempt.run_bind_of (run_keypadCellsOf holds)]
  obtain ⟨address, looked, same, small, _⟩ | ⟨⟨line, looked⟩, _⟩ := run_keypadAddress hub cells
  · have fine (transfer : Transfer) : hub.Addressed bus cells (.bus bus address transfer) := by
      rintro _ _ _ ⟨⟩
      exact ⟨rfl, same, small⟩
    rw [Attempt.run_bind_of looked]
    refine passage.tryBind (adds_writeKeypad lines fine) (fun _ => ?_) hub
    refine passage.tryBind (adds_store lines fun _ => nofun) fun _ => ?_
    exact passage.tryBind (tryLift (adds_log lines _ _)) fun _ => (cataloguing_adds lines).registerCommand _
  · rw [Attempt.run_bind, looked]
    exact adds_log lines _ _ hub

/-- The first init of a keypad writes to the address that its setting starts with. -/
theorem adds_first_keypadPhase {scanning : Bool} (holds : hub.keypad? leaf = some ⟨bus, none, scanning⟩) :
    Adds (fun happening => ∀ name address transfer, happening = .bus name address transfer → name = bus ∧ address = 0x20)
      hub ((keypadPhase .init leaf).run.run hub).2 := by
  obtain ⟨lines, ran⟩ := run_first_keypadPhase holds
  have held : (hub.keypadMade leaf bus scanning lines).keypad? leaf = some ⟨bus, some hub.nextKeypad, scanning⟩ :=
    keypad?_made lines (known_of_context (keypad?_eq_some.mp holds))
  have addr : (hub.keypadMade leaf bus scanning lines).cell hub.nextKeypad.addr = _ := addr_made lines
  have made : Adds (fun happening => ∀ name address transfer, happening = .bus name address transfer →
      name = bus ∧ address = 0x20) hub (hub.keypadMade leaf bus scanning lines) :=
    adds_of_lines (fun _ _ _ _ _ same => by cases same) rfl
  rw [ran]
  refine (passage_adds _).trans made ?_
  refine (adds_configureKeypad held (hub.leaf leaf).name bus).mono fun happening addressed name address transfer same => ?_
  obtain ⟨own, target, _⟩ := addressed name address transfer same
  rw [uint16?, Hub.value, addr] at target
  exact ⟨own, UInt8.toNat_inj.mp target⟩

theorem adds_again_keypadPhase {scanning : Bool} (holds : hub.keypad? leaf = some ⟨bus, some cells, scanning⟩) :
    Adds (hub.Addressed bus cells) hub ((keypadPhase .init leaf).run.run hub).2 := by
  obtain ⟨lines, ran⟩ := run_again_keypadPhase holds
  have held : (hub.withLines lines).keypad? leaf = some ⟨bus, some cells, scanning⟩ := holds
  have began : Adds (hub.Addressed bus cells) hub (hub.withLines lines) :=
    adds_of_lines (fun _ _ _ _ _ same => by cases same) rfl
  rw [ran]
  exact (passage_adds _).trans began (adds_configureKeypad held (hub.leaf leaf).name bus)

section Acts

/-- Nobody commands a keypad that is gone. -/
theorem run_keypadCommand_of_gone (gone : ¬hub.isAlive leaf = true) (args : List String) :
    ((keypadCommand leaf args).run hub).2 = hub := by
  unfold keypadCommand
  rw [Act.run_bind_of (Act.run_get hub), if_neg gone]
  rfl

theorem sameKeys_leafAct (own : LeafAct leaf act) (other : ¬hub.ScansKeys leaf act) :
    SameKeys leaf bus cells names hub (act.run hub).2 := by
  have keeping := housekeeping_sameKeys leaf bus cells names
  intro keys
  have still : SameKeys leaf bus cells names hub hub := keeping.refl hub
  cases own with
  | led phase =>
    have idle : ((ledPhase phase leaf).run.run hub).2 = hub := run_ledPhase_of_none keys.not_led phase
    rw [idle]
    exact still keys
  | ledCommand args =>
    rw [run_ledCommand_of_none keys.not_led]
    exact still keys
  | keypad phase =>
    exact keeping.keypadPhase (fun _ => sameKeys_initKeypad) (fun _ => sameKeys_startScan) (fun _ => sameKeys_stopScan)
      hub keys
  | keypadCommand args =>
    by_cases alive : hub.isAlive leaf = true
    · refine keeping.keypadCommand (fun scan => ?_) (fun _ => sameKeys_startScan) (fun _ => sameKeys_stopScan)
        (adjustsWithin_sameKeys leaf bus cells names) hub keys
      exact absurd (scan ▸ .command alive) other
    · rw [run_keypadCommand_of_gone alive]
      exact still keys

theorem sameKeys_turned (queue : QueueId) : SameKeys leaf bus cells names hub (hub.turned queue) :=
  sameKeys_of_respects (Stake.respects_turned nofun)

theorem sameKeys_scanAgain : Act.Keeps (SameKeys leaf bus cells names) (scanAgain leaf) :=
  fun hub => keeps_scanAgain (passage_sameKeys leaf bus cells names) fun _ _ _ =>
    sameKeys_of_respects (Stake.respects_schedule (Option.not_mem_none _) _ hub)

/-- A turn that runs a keypad without a scan: the keypad is gone, or the item takes it for an LED. -/
theorem run_takeTurn_idle {queue : QueueId} {item : ItemId} (starts : ((hub.queues.get queue).turn hub.clock).1 = some item)
    (own : (hub.items.get item).handler.leaf? = some leaf) (led : hub.led? leaf = none)
    (other : ¬hub.ScansKeys leaf (takeTurn queue)) : ((takeTurn queue).run hub).2 = hub.turned queue ∨
      ∃ line, ((takeTurn queue).run hub).2 = ((log .error line).run (hub.turned queue)).2 := by
  rw [run_takeTurn, starts]
  dsimp only
  cases handled : (hub.items.get item).handler with
  | ledChange id =>
    rw [handled] at own
    cases own
    have none : (hub.turned queue).led? leaf = none := led
    refine .inl ?_
    show ((ledChanged leaf).run (hub.turned queue)).2 = hub.turned queue
    rw [run_ledChanged_of_none none]
  | keypadScan id =>
    rw [handled] at own
    cases own
    have gone : ¬(hub.turned queue).isAlive leaf = true := fun alive => other (.turn alive starts handled)
    refine .inr ⟨"kp not found", ?_⟩
    show ((tickKeypad leaf).run (hub.turned queue)).2 = _
    unfold tickKeypad
    rw [Act.run_bind_of (Act.run_get _), if_pos (by simpa using gone)]
    rfl
  | custom behaviour =>
    rw [handled] at own
    cases own

theorem sameKeys_takeTurn {queue : QueueId} (other : ¬hub.ScansKeys leaf (takeTurn queue)) :
    SameKeys leaf bus cells names hub ((takeTurn queue).run hub).2 := by
  have turned : SameKeys leaf bus cells names hub (hub.turned queue) := sameKeys_turned queue
  by_cases runs : ∃ item, ((hub.queues.get queue).turn hub.clock).1 = some item ∧
      (hub.items.get item).handler.leaf? = some leaf
  · intro keys
    obtain ⟨item, starts, own⟩ := runs
    obtain idle | ⟨line, logged⟩ := run_takeTurn_idle starts own keys.not_led other
    · rw [idle]
      exact turned keys
    · rw [logged]
      exact (passage_sameKeys leaf bus cells names).trans turned (sameKeys_of_respects (Stake.respects_log _ _ _)) keys
  · refine sameKeys_of_respects (Stake.respects_takeTurn fun item starts own => ?_)
    exact runs ⟨item, starts, own⟩

/-- Whatever happens other than a scan leaves the cells of the keys alone. -/
theorem sameKeys_stakeAct (fine : StakeAct (.ofKeys leaf cells names) act) (other : ¬hub.ScansKeys leaf act) :
    SameKeys leaf bus cells names hub (act.run hub).2 := by
  cases fine with
  | aside respects => exact sameKeys_of_respects (respects hub)
  | turn queue => exact sameKeys_takeTurn other
  | own own => exact sameKeys_leafAct own other

theorem run_scanCommand {state : KeypadState} (holds : hub.keypad? leaf = some state) (alive : hub.isAlive leaf = true) :
    ((keypadCommand leaf ["scan"]).run hub).2 =
      ((scanKeypad leaf).run.run ((log .info "Doing immediate scan").run hub).2).2 := by
  have plain : runKeypadCommand leaf ["scan"] = do
      let _ ← keypadOf leaf
      let _ ← get
      (do
        log .info "Doing immediate scan"
        scanKeypad leaf)
      return "" := by
    simp only [runKeypadCommand, bind_assoc]
  rw [run_keypadCommand_of holds alive plain, Attempt.run_bind, Attempt.run_lift]

theorem run_scanTurn {queue : QueueId} {item : ItemId} (starts : ((hub.queues.get queue).turn hub.clock).1 = some item)
    (handled : (hub.items.get item).handler = .keypadScan leaf) :
    ((takeTurn queue).run hub).2 = ((tickKeypad leaf).run (hub.turned queue)).2 := by
  rw [run_takeTurn, starts]
  dsimp only
  rw [handled]
  rfl

/-- What an act comes to in which the keypad scans. -/
theorem Keys.scans (keys : hub.Keys leaf bus cells names) {before : UInt8} (held : hub.value cells.pins = .byte before)
    (scans : hub.ScansKeys leaf act) :
    hub.Tells cells ((hub.reading? bus cells).elim [] (scanStores cells before)) (act.run hub).2 ∧
      (act.run hub).2.Keys leaf bus cells names ∧ Adds (hub.Addressed bus cells) hub (act.run hub).2 := by
  have passage := passage_adds (hub.Addressed bus cells)
  have lines (level : Level) (line : String) : hub.Addressed bus cells (.log level line) := nofun
  obtain ⟨scanning, holds⟩ := keys.holds
  cases scans with
  | command alive =>
    rw [run_scanCommand holds alive]
    obtain ⟨same, logged⟩ := sameKeys_of_respects (Stake.respects_log .info "Doing immediate scan" hub) keys
    have told : ((log .info "Doing immediate scan").run hub).2.value cells.pins = .byte before := held
    obtain ⟨tells, later, past⟩ := logged.scan told
    exact ⟨same.trans tells, later, passage.trans (adds_log lines _ _ hub) past⟩
  | @turn queue item alive starts handled =>
    obtain ⟨same, turned⟩ := sameKeys_turned queue keys
    have told : (hub.turned queue).value cells.pins = .byte before := held
    obtain ⟨tells, scanned, past⟩ := turned.scan told
    have began : Adds (hub.Addressed bus cells) hub (hub.turned queue) := adds_turned (fun _ _ => nofun) queue
    rw [run_scanTurn starts handled]
    obtain ⟨after, ran, rfl | ⟨line, rfl⟩⟩ := run_tickKeypad (show (hub.turned queue).keypad? leaf = _ from holds) alive
    · obtain ⟨again, later⟩ := sameKeys_scanAgain _ scanned
      rw [ran]
      refine ⟨same.trans (tells.still again), later, ?_⟩
      exact passage.trans began (passage.trans past (adds_scanAgain leaf _))
    · obtain ⟨still, logged⟩ := sameKeys_of_respects (Stake.respects_log .debug line _) scanned
      obtain ⟨again, later⟩ := sameKeys_scanAgain _ logged
      rw [ran]
      refine ⟨same.trans ((tells.still still).still again), later, ?_⟩
      exact passage.trans began (passage.trans past (passage.trans (adds_log lines _ _ _) (adds_scanAgain leaf _)))

/-- A keypad makes transfers when it scans and when it is inited, and at no other time. -/
theorem Attends.adds {sort : Happening → Prop} (lines : ∀ level line, sort (.log level line))
    (stores : ∀ cell name value, sort (.stored cell name value)) (begins : ∀ item label, sort (.began item label))
    {state : KeypadState} (holds : hub.keypad? leaf = some state) (attends : hub.Attends leaf act)
    (scanned : hub.ScansKeys leaf act → Adds sort hub (act.run hub).2)
    (inited : Adds sort hub ((keypadPhase .init leaf).run.run hub).2) : Adds sort hub (act.run hub).2 := by
  have passage := passage_adds sort
  have keeping : Housekeeping (Adds sort) := housekeeping_adds lines stores
  by_cases scans : hub.ScansKeys leaf act
  · exact scanned scans
  · cases attends with
    | own own =>
      cases own with
      | led phase =>
        have idle : ((ledPhase phase leaf).run.run hub).2 = hub := run_ledPhase_of_none (led?_of_keypad? holds) phase
        rw [idle]
        exact passage.refl hub
      | ledCommand args =>
        rw [run_ledCommand_of_none (led?_of_keypad? holds)]
        exact passage.refl hub
      | keypad phase =>
        cases phase with
        | init => exact inited
        | start | stop | preSleep | postSleep =>
          exact keeping.keypadPhase (fun same => by cases same) (fun _ => adds_startScan lines)
            (fun _ => adds_stopScan lines) hub
      | keypadCommand args =>
        by_cases alive : hub.isAlive leaf = true
        · refine keeping.keypadCommand (fun scan => ?_) (fun _ => adds_startScan lines) (fun _ => adds_stopScan lines)
            (fun hub cell value _ => adds_store lines (fun name => stores cell name value) hub) hub
          exact absurd (scan ▸ .command alive) scans
        · rw [run_keypadCommand_of_gone alive]
          exact passage.refl hub
    | @turn queue item starts own =>
      have began : Adds sort hub (hub.turned queue) := adds_turned begins queue
      obtain idle | ⟨line, logged⟩ := run_takeTurn_idle starts own (led?_of_keypad? holds) scans
      · rw [idle]
        exact began
      · rw [logged]
        exact passage.trans began (adds_log lines _ _ _)

/-- No act of a keypad makes a transfer to another address than the setting gives. -/
theorem Keys.attends (keys : hub.Keys leaf bus cells names) (attends : hub.Attends leaf act) :
    Adds (hub.Addressed bus cells) hub (act.run hub).2 := by
  obtain ⟨scanning, holds⟩ := keys.holds
  obtain ⟨before, held⟩ := keys.pins
  exact attends.adds (fun _ _ => nofun) (fun _ _ _ => nofun) (fun _ _ => nofun) holds
    (fun scans => (keys.scans held scans).2.2) (adds_again_keypadPhase holds)

end Acts

section First

/-- The names that the cells of the keys get. -/
def keyNames (leaf : String) : List String :=
  [Cell.boundedName (Cell.prefixedName leaf "pins"), Cell.boundedName (Cell.prefixedName leaf "event")]

theorem Grounded.keys_made (grounded : hub.Grounded) {scanning : Bool}
    (holds : hub.keypad? leaf = some ⟨bus, none, scanning⟩) (lines : List (Level × String)) :
    (hub.keypadMade leaf bus scanning lines).Keys leaf bus hub.nextKeypad (keyNames (hub.leaf leaf).name) := by
  have pins : (hub.keypadMade leaf bus scanning lines).cell hub.nextKeypad.pins = _ := pins_made lines
  have event : (hub.keypadMade leaf bus scanning lines).cell hub.nextKeypad.event = _ := event_made lines
  have addr : (hub.keypadMade leaf bus scanning lines).cell hub.nextKeypad.addr = _ := addr_made lines
  refine
    { holds := ⟨scanning, keypad?_made lines (known_of_context (keypad?_eq_some.mp holds))⟩
      sole := grounded.sole_keypad lines holds rfl nofun (fun cell own => ?_) rfl
      apart := by simp [nextKeypad]
      others := by simp [nextKeypad]
      byte := by rw [pins]; rfl
      event := by rw [event]; rfl
      addressed := ⟨?_, by rw [addr]; rfl⟩ }
  · simp only [Stake.ofKeys, List.mem_cons, List.not_mem_nil, or_false] at own
    rcases own with rfl | rfl
    · exact .inl ⟨rfl, List.mem_cons_self⟩
    · exact .inr ⟨rfl, List.mem_cons_of_mem _ List.mem_cons_self⟩
  · have size : (hub.keypadGrowth leaf lines).cells.size = hub.cells.size + 5 := by simp [keypadGrowth]
    show hub.cells.size < (hub.keypadGrowth leaf lines).cells.size
    omega

/-- Nothing has happened yet to cells that have just been made. -/
theorem Grounded.keyChanges_made (grounded : hub.Grounded) {scanning : Bool} (lines : List (Level × String)) :
    (hub.keypadMade leaf bus scanning lines).keyChanges hub.nextKeypad = [] := by
  have journal : (hub.keypadMade leaf bus scanning lines).journal.toList =
      hub.journal.toList ++ lines.map fun line => .log line.1 line.2 := by
    show (hub.withLines lines).journal.toList = _
    simp [withLines]
  rw [keyChanges, journal]
  refine List.filter_eq_nil_iff.mpr fun happening member => ?_
  rcases List.mem_append.mp member with old | new
  · have past := grounded.past happening old
    simp only [decide_eq_true_eq]
    rintro (pins | event)
    · exact absurd (past _ pins) (Nat.not_lt.mpr (Nat.le_add_right _ _))
    · exact absurd (past _ event) (Nat.not_lt.mpr (Nat.le_add_right _ _))
  · obtain ⟨line, _, rfl⟩ := List.mem_map.mp new
    simp [Happening.changed?]

/-- A keypad that has been inited for the first time has seen no key yet, also if the init failed. -/
theorem Grounded.keys (grounded : hub.Grounded) {scanning : Bool} (holds : hub.keypad? leaf = some ⟨bus, none, scanning⟩) :
    ((keypadPhase .init leaf).run.run hub).2.Keys leaf bus hub.nextKeypad (keyNames (hub.leaf leaf).name) ∧
      ((keypadPhase .init leaf).run.run hub).2.value hub.nextKeypad.pins = .byte 0xFF ∧
      ((keypadPhase .init leaf).run.run hub).2.keyChanges hub.nextKeypad = [] ∧
      Adds (fun happening => ∀ name address transfer, happening = .bus name address transfer → name = bus ∧ address = 0x20)
        hub ((keypadPhase .init leaf).run.run hub).2 := by
  have past := adds_first_keypadPhase holds
  obtain ⟨lines, ran⟩ := run_first_keypadPhase holds
  obtain ⟨tells, keys⟩ := sameKeys_configureKeypad (hub.leaf leaf).name bus _ (grounded.keys_made holds lines)
  have pins : (hub.keypadMade leaf bus scanning lines).cell hub.nextKeypad.pins = _ := pins_made lines
  rw [ran] at past ⊢
  refine ⟨keys, (tells.values _ List.mem_cons_self).trans ?_, tells.changes.trans ?_, past⟩
  · rw [Hub.value, pins]
    rfl
  · rw [grounded.keyChanges_made lines]
    rfl

end First

end Hub

end LeafHub
