import LeafHub.Proofs.Hub.KeyEvents
import LeafHub.Proofs.Hub.Respect

namespace LeafHub

open Hub Passage

/-- The stake of a keypad in the cells of its keys. -/
def Stake.ofKeys (leaf : LeafId) (cells : KeypadCells) (names : List String) : Stake where
  leaf
  item? := none
  cells := [cells.pins, cells.event]
  names
  pins := []

namespace Hub

/-- A keypad has its cells, and nobody else writes what it tells about its keys. -/
structure Keys (hub : Hub) (leaf : LeafId) (bus : String) (cells : KeypadCells) (names : List String) : Prop where
  holds : ∃ scanning, hub.keypad? leaf = some ⟨bus, some cells, scanning⟩
  sole : (Stake.ofKeys leaf cells names).Sole hub
  apart : cells.pins ≠ cells.event
  others : ∀ cell ∈ [cells.ok, cells.addr, cells.interval], cell ∉ [cells.pins, cells.event]
  byte : (hub.cell cells.pins).kind = .byte
  event : (hub.cell cells.event).kind = .event
  addressed : cells.addr < hub.cells.size ∧ (hub.cell cells.addr).kind = .uint16

/-- What has happened to the cells of the keys. -/
def keyChanges (hub : Hub) (cells : KeypadCells) : List Happening :=
  hub.journal.toList.filter fun happening => happening.changed? = some cells.pins ∨ happening.changed? = some cells.event

/-- The value of a cell once these have been stored. -/
def lastStored (stores : List (CellId × Value)) (cell : CellId) (value : Value) : Value :=
  stores.foldl (fun value store => if store.1 = cell then store.2 else value) value

/-- Of the cells of the keys these were stored, in this order, and nothing else was. -/
structure Tells (hub : Hub) (cells : KeypadCells) (stores : List (CellId × Value)) (after : Hub) : Prop where
  names : ∀ cell ∈ [cells.pins, cells.event], (after.cell cell).name = (hub.cell cell).name
  values : ∀ cell ∈ [cells.pins, cells.event], after.value cell = lastStored stores cell (hub.value cell)
  changes : after.keyChanges cells = hub.keyChanges cells ++
    stores.map fun store => .stored store.1 (hub.cell store.1).name store.2
  within : ∀ store ∈ stores, store.1 ∈ [cells.pins, cells.event]

theorem Tells.trans {first second third : Hub} {cells : KeypadCells} {stores more : List (CellId × Value)}
    (one : first.Tells cells stores second) (two : second.Tells cells more third) :
    first.Tells cells (stores ++ more) third where
  names := fun cell own => (two.names cell own).trans (one.names cell own)
  values := fun cell own => by
    rw [two.values cell own, one.values cell own, lastStored, lastStored, lastStored, List.foldl_append]
  changes := by
    rw [two.changes, one.changes, List.map_append, List.append_assoc]
    congr 2
    exact List.map_congr_left fun store member => by rw [one.names store.1 (two.within store member)]
  within := fun store member => (List.mem_append.mp member).elim (one.within store) (two.within store)

theorem Tells.still {first second third : Hub} {cells : KeypadCells} {stores : List (CellId × Value)}
    (one : first.Tells cells stores second) (two : second.Tells cells [] third) : first.Tells cells stores third := by
  have both := one.trans two
  rwa [List.append_nil] at both

theorem passage_tells (cells : KeypadCells) : Passage fun hub after => hub.Tells cells [] after where
  refl := fun _ => ⟨fun _ _ => rfl, fun _ _ => rfl, (List.append_nil _).symm, nofun⟩
  trans := fun first second => first.trans second

/-- The cells of the keys are as they were. -/
def SameKeys (leaf : LeafId) (bus : String) (cells : KeypadCells) (names : List String) (hub after : Hub) : Prop :=
  hub.Keys leaf bus cells names → hub.Tells cells [] after ∧ after.Keys leaf bus cells names

section Adds

variable {sort : Happening → Prop}

theorem adds_askQueue (item : ItemId) (ask : WorkQueue → Bool × WorkQueue) : Act.Keeps (Adds sort) (askQueue item ask) := by
  intro hub
  rw [run_askQueue]
  split <;> exact adds_of_same rfl

variable (lines : ∀ level line, sort (.log level line))

include lines

theorem adds_log (level : Level) (line : String) : Act.Keeps (Adds sort) (log level line) :=
  fun _ => adds_of_push (lines level line) rfl

theorem adds_notify (id : CellId) : Act.Keeps (Adds sort) (notify id) :=
  (passage_adds sort).notify (fun item => keeps_submit (adds_log lines) (adds_askQueue item _)) id

theorem adds_store {id : CellId} {value : Value} (fine : ∀ name, sort (.stored id name value)) (hub : Hub) :
    Adds sort hub ((store id value).run.run hub).2 := by
  rw [run_store]
  split
  · exact adds_log lines _ _ hub
  · have put : Adds sort hub (hub.putNoted id value (.stored id (hub.cell id).name value)) := adds_of_push (fine _) rfl
    exact (passage_adds sort).trans put (adds_notify lines id _)

end Adds

section Keys

variable {hub after : Hub} {leaf : LeafId} {bus : String} {cells : KeypadCells} {names : List String}

theorem passage_sameKeys (leaf : LeafId) (bus : String) (cells : KeypadCells) (names : List String) :
    Passage (SameKeys leaf bus cells names) :=
  (passage_tells cells).under _

theorem Keys.pins (keys : hub.Keys leaf bus cells names) : ∃ pins, hub.value cells.pins = .byte pins := by
  have kind := (keys.sole.sound.coherent.kind_value cells.pins).trans keys.byte
  cases held : hub.value cells.pins with
  | byte pins => exact ⟨pins, rfl⟩
  | _ => rw [held] at kind; cases kind

theorem Keys.setting (keys : hub.Keys leaf bus cells names) : ∃ setting, hub.value cells.addr = .uint16 setting := by
  have kind := (keys.sole.sound.coherent.kind_value cells.addr).trans keys.addressed.2
  cases held : hub.value cells.addr with
  | uint16 setting => exact ⟨setting, rfl⟩
  | _ => rw [held] at kind; cases kind

theorem keyChanges_of_adds (past : Adds (fun happening => ∀ cell ∈ [cells.pins, cells.event],
    happening.changed? ≠ some cell) hub after) : after.keyChanges cells = hub.keyChanges cells := by
  obtain ⟨more, journal, fine⟩ := past
  have none : more.filter (fun happening =>
      decide (happening.changed? = some cells.pins ∨ happening.changed? = some cells.event)) = [] := by
    refine List.filter_eq_nil_iff.mpr fun happening member => ?_
    have apart := fine happening member
    simp only [List.mem_cons, List.not_mem_nil, or_false, forall_eq_or_imp, forall_eq] at apart
    simpa using apart
  rw [keyChanges, journal, List.filter_append, none, List.append_nil]
  rfl

/-- The cells have the kinds that they were made with. -/
theorem Keys.of_continues (keys : hub.Keys leaf bus cells names) (continues : hub.Continues after)
    (context : (after.leaf leaf).context = (hub.leaf leaf).context) (sole : (Stake.ofKeys leaf cells names).Sole after) :
    after.Keys leaf bus cells names where
  holds := by
    obtain ⟨scanning, holds⟩ := keys.holds
    exact ⟨scanning, by rw [keypad?, context]; exact holds⟩
  sole := sole
  apart := keys.apart
  others := keys.others
  byte := (continues.kind _ (keys.sole.cells _ (by simp [Stake.ofKeys])).1).trans keys.byte
  event := (continues.kind _ (keys.sole.cells _ (by simp [Stake.ofKeys])).1).trans keys.event
  addressed := ⟨Nat.lt_of_lt_of_le keys.addressed.1 continues.size, (continues.kind _ keys.addressed.1).trans keys.addressed.2⟩

theorem sameKeys_of_respects (respects : (Stake.ofKeys leaf cells names).Respects hub after) :
    SameKeys leaf bus cells names hub after := by
  intro keys
  obtain ⟨spared, sole⟩ := respects keys.sole
  refine ⟨?_, keys.of_continues spared.continues spared.context sole⟩
  exact
    { names := fun cell own => congrArg Cell.name (spared.cells cell own).1
      values := fun cell own => (spared.cells cell own).2
      changes := (keyChanges_of_adds spared.past).trans (List.append_nil _).symm
      within := nofun }

/-- The keypad itself stores into a cell of its keys. -/
theorem Keys.stored (keys : hub.Keys leaf bus cells names) {id : CellId} {value : Value}
    (own : id ∈ [cells.pins, cells.event]) (sort : value.kind = (hub.cell id).kind) :
    ∃ after, (store id value).run.run hub = (.ok (), after) ∧ hub.Tells cells [(id, value)] after ∧
      after.Keys leaf bus cells names := by
  have changed : (Happening.stored id (hub.cell id).name value).changed? = some id := rfl
  obtain ⟨written, queues, notes, told, wrote, continues, sole⟩ :=
    keys.sole.told rfl (keys.sole.cells id own).1 sort changed
  have past : _ = (hub.putNoted id value (.stored id (hub.cell id).name value)).keyChanges cells :=
    keyChanges_of_adds (adds_notify (fun _ _ _ _ same => by cases same) id _)
  have journal : (hub.putNoted id value (.stored id (hub.cell id).name value)).keyChanges cells =
      hub.keyChanges cells ++ [.stored id (hub.cell id).name value] := by
    have mine : id = cells.pins ∨ id = cells.event := by simpa using own
    simp [keyChanges, putNoted, List.filter_append, changed, mine]
  refine ⟨_, by rw [run_store, if_neg (not_not_intro sort)], ?_⟩
  rw [told] at past ⊢
  constructor
  · exact
      { names := fun cell _ => wrote.name cell
        values := fun cell _ => by
          by_cases here : cell = id
          · subst here
            exact wrote.value.trans (if_pos rfl).symm
          · exact (wrote.others cell here).2.trans (if_neg (Ne.symm here)).symm
        changes := past.trans journal
        within := fun store member => List.mem_singleton.mp member ▸ own }
  · refine keys.of_continues ⟨continues.size, continues.name, continues.kind, continues.flags⟩ ?_ sole
    exact congrArg (fun leaves => (Pool.get leaves leaf).context) wrote.leaves

theorem Keys.storedPins (keys : hub.Keys leaf bus cells names) (now : UInt8) :
    ∃ after, (store cells.pins (.byte now)).run.run hub = (.ok (), after) ∧
      hub.Tells cells [(cells.pins, .byte now)] after ∧ after.Keys leaf bus cells names :=
  keys.stored (by simp) keys.byte.symm

theorem Keys.storedEvent (keys : hub.Keys leaf bus cells names) (event : UInt32) :
    ∃ after, (store cells.event (.event event)).run.run hub = (.ok (), after) ∧
      hub.Tells cells [(cells.event, .event event)] after ∧ after.Keys leaf bus cells names :=
  keys.stored (by simp) keys.event.symm

/-- One key of a change. -/
theorem Keys.reportKey (keys : hub.Keys leaf bus cells names) (before now : UInt8) {key : Nat} (below : key < 8) :
    ∃ after, (reportKey cells.event before now key).run.run hub = (.ok (), after) ∧
      hub.Tells cells (if isHigh before key = isHigh now key then []
        else [(cells.event, .event (keyEvent (isHigh now key) key))]) after ∧ after.Keys leaf bus cells names := by
  have told (level : Level) (line : String) (event : UInt32) : ∃ after, ((do
      log level line
      store cells.event (.event event)) : Attempt Unit).run.run hub = (.ok (), after) ∧
        hub.Tells cells [(cells.event, .event event)] after ∧ after.Keys leaf bus cells names := by
    obtain ⟨same, logged⟩ := sameKeys_of_respects (Stake.respects_log level line hub) keys
    obtain ⟨after, stored, tells, later⟩ := logged.storedEvent event
    exact ⟨after, stored, same.trans tells, later⟩
  have masks : ∀ key < 8, pressBit ||| ((1 : UInt8) <<< UInt8.ofNat key).toUInt32 = keyEvent false key ∧
      releaseBit ||| ((1 : UInt8) <<< UInt8.ofNat key).toUInt32 = keyEvent true key := by decide
  obtain ⟨pressed, released⟩ := masks key below
  unfold Hub.reportKey
  simp only [and_mask_eq_iff before now below, and_mask_eq_zero_iff now below, pressed, released]
  split
  · exact ⟨hub, rfl, (passage_tells cells).refl hub, keys⟩
  · split
    · rename_i low
      rw [low]
      exact told _ _ _
    · rename_i high
      rw [Bool.not_eq_false] at high
      rw [high]
      exact told _ _ _

theorem Keys.reportKeys (keys : hub.Keys leaf bus cells names) (before now : UInt8) {among : List Nat}
    (below : ∀ key ∈ among, key < 8) :
    ∃ after, (among.forM (Hub.reportKey cells.event before now)).run.run hub = (.ok (), after) ∧
      hub.Tells cells ((among.filter fun key => isHigh before key != isHigh now key).map fun key =>
        (cells.event, .event (keyEvent (isHigh now key) key))) after ∧ after.Keys leaf bus cells names := by
  induction among generalizing hub with
  | nil => exact ⟨hub, rfl, (passage_tells cells).refl hub, keys⟩
  | cons key rest ih =>
    obtain ⟨between, first, one, later⟩ := keys.reportKey before now (below key List.mem_cons_self)
    obtain ⟨after, others, two, last⟩ := ih later fun other member => below other (List.mem_cons_of_mem _ member)
    refine ⟨after, ?_, ?_, last⟩
    · show (Hub.reportKey cells.event before now key >>= fun _ => rest.forM _).run.run hub = _
      rw [Attempt.run_bind_of first]
      exact others
    · have both := one.trans two
      rw [List.filter_cons]
      split at both <;> simp_all

/-- What a scan stores once it has read the pins. -/
def scanStores (cells : KeypadCells) (before now : UInt8) : List (CellId × Value) :=
  if now = before then []
  else (cells.pins, .byte now) :: (keyEvents before now).map fun event => (cells.event, .event event)

theorem Keys.report (keys : hub.Keys leaf bus cells names) {before : UInt8} (held : hub.value cells.pins = .byte before)
    (now : UInt8) : ∃ after, (reportScan cells now).run.run hub = (.ok (), after) ∧
      hub.Tells cells (scanStores cells before now) after ∧ after.Keys leaf bus cells names := by
  have byte : hub.byte? cells.pins = some before := by rw [byte?, held]
  unfold reportScan
  rw [Attempt.run_bind, Attempt.run_get]
  dsimp only
  rw [byte, scanStores]
  dsimp only
  split
  · exact ⟨hub, rfl, (passage_tells cells).refl hub, keys⟩
  · obtain ⟨same, logged⟩ := sameKeys_of_respects
      (Stake.respects_log .debug s!"Keypad change {Text.hex [before]} => {Text.hex [now]}" hub) keys
    obtain ⟨between, stored, one, later⟩ := logged.storedPins now
    obtain ⟨after, reported, two, last⟩ := later.reportKeys before now fun key => List.mem_range.mp
    refine ⟨after, ?_, ?_, last⟩
    · rw [Attempt.run_bind, Attempt.run_lift]
      dsimp only
      rw [Attempt.run_bind_of stored]
      exact reported
    · rw [keyEvents, changedKeys, List.map_map]
      exact same.trans (one.trans two)

theorem run_readKeypad (hub : Hub) (name : String) (address : UInt8) : ((readKeypad name address).run.run hub) =
    match (hub.bus name).readByte with
    | (.ok pins, bus) => (.ok pins, { hub with
        buses := hub.buses.put name bus, journal := hub.journal.push (.bus name address (.read pins)) })
    | (.error fault, bus) => (.error .io, ((log .error s!"i2c read error {fault.message}").run { hub with
        buses := hub.buses.put name bus, journal := hub.journal.push (.bus name address .failedRead) }).2) := by
  unfold readKeypad
  rw [Attempt.run_bind, Attempt.run_get]
  dsimp only
  cases (hub.bus name).readByte with
  | mk answer bus => cases answer <;> rfl

/-- The byte that a scan reads now, if it reads one. -/
def reading? (hub : Hub) (bus : String) (cells : KeypadCells) : Option UInt8 :=
  if ((hub.uint16? cells.addr).getD 0x20).toNat ≤ 0x7F then (hub.bus bus).readByte.1.toOption else none

/-- A transfer on the keypad's bus, to the address that its setting gives, or no transfer at all. -/
def Addressed (hub : Hub) (bus : String) (cells : KeypadCells) (happening : Happening) : Prop :=
  ∀ name address transfer, happening = .bus name address transfer →
    name = bus ∧ address.toNat = ((hub.uint16? cells.addr).getD 0x20).toNat ∧ address ≤ 0x7F

theorem run_keypadAddress (hub : Hub) (cells : KeypadCells) : (∃ address : UInt8,
      (keypadAddress cells).run.run hub = (.ok address, hub) ∧
      address.toNat = ((hub.uint16? cells.addr).getD 0x20).toNat ∧ address ≤ 0x7F ∧
      ∀ bus, hub.reading? bus cells = (hub.bus bus).readByte.1.toOption) ∨
    ((∃ line, (keypadAddress cells).run.run hub = (.error .invalidValue, ((log .error line).run hub).2)) ∧
      0x7F < ((hub.uint16? cells.addr).getD 0x20).toNat ∧ ∀ bus, hub.reading? bus cells = none) := by
  unfold keypadAddress reading?
  rw [Attempt.run_bind, Attempt.run_get]
  dsimp only
  generalize ((hub.uint16? cells.addr).getD 0x20).toNat = raw
  by_cases small : raw ≤ 0x7F
  · rw [if_pos small]
    refine .inl ⟨UInt8.ofNat raw, rfl, ?_, ?_, fun _ => if_pos small⟩
    · simp; omega
    · rw [UInt8.le_iff_toNat_le]
      simp; omega
  · rw [if_neg small]
    exact .inr ⟨⟨_, rfl⟩, Nat.lt_of_not_le small, fun _ => if_neg small⟩

theorem adds_reportScan {sort : Happening → Prop} (lines : ∀ level line, sort (.log level line))
    (stores : ∀ cell name value, sort (.stored cell name value)) (now : UInt8) :
    Attempt.Keeps (Adds sort) (reportScan cells now) :=
  keeps_reportScan ⟨passage_adds sort, adds_log lines⟩
    (fun cell _ value => adds_store lines fun name => stores cell name value) now

/-- What one scan comes to, whatever the setting of the address is and whatever the bus answers. -/
theorem Keys.scan (keys : hub.Keys leaf bus cells names) {before : UInt8} (held : hub.value cells.pins = .byte before) :
    hub.Tells cells ((hub.reading? bus cells).elim [] (scanStores cells before)) ((scanKeypad leaf).run.run hub).2 ∧
      ((scanKeypad leaf).run.run hub).2.Keys leaf bus cells names ∧
      Adds (hub.Addressed bus cells) hub ((scanKeypad leaf).run.run hub).2 := by
  obtain ⟨scanning, holds⟩ := keys.holds
  have lines (level : Level) (line : String) : hub.Addressed bus cells (.log level line) := nofun
  rw [run_scanKeypad holds]
  obtain ⟨address, looked, same, small, reading⟩ | ⟨⟨line, looked⟩, _, reading⟩ := run_keypadAddress hub cells
  · have fine (transfer : Transfer) : hub.Addressed bus cells (.bus bus address transfer) := by
      rintro _ _ _ ⟨⟩
      exact ⟨rfl, same, small⟩
    have noted (transfer : Transfer) (after : Bus) : SameKeys leaf bus cells names hub { hub with
        buses := hub.buses.put bus after, journal := hub.journal.push (.bus bus address transfer) } :=
      sameKeys_of_respects ((Stake.passage_respects _).trans (Stake.respects_setBus bus after hub)
        (Stake.respects_noted _ fun _ _ => nofun))
    have past (transfer : Transfer) (after : Bus) : Adds (hub.Addressed bus cells) hub { hub with
        buses := hub.buses.put bus after, journal := hub.journal.push (.bus bus address transfer) } :=
      adds_of_push (fine transfer) rfl
    rw [Attempt.run_bind_of looked, Attempt.run_bind, run_readKeypad, reading]
    cases (hub.bus bus).readByte with
    | mk answer after =>
      cases answer with
      | ok now =>
        obtain ⟨same, read⟩ := noted (.read now) after keys
        have told : Hub.value { hub with
            buses := hub.buses.put bus after, journal := hub.journal.push (.bus bus address (.read now)) } cells.pins =
              .byte before := held
        obtain ⟨last, done, tells, later⟩ := read.report told now
        have reported : Adds (hub.Addressed bus cells) _ ((reportScan cells now).run.run _).2 :=
          adds_reportScan lines (fun _ _ _ => nofun) now { hub with
          buses := hub.buses.put bus after, journal := hub.journal.push (.bus bus address (.read now)) }
        dsimp only [Except.toOption, Option.elim]
        rw [done] at reported ⊢
        exact ⟨same.trans tells, later, (passage_adds _).trans (past _ _) reported⟩
      | error fault =>
        obtain ⟨same, read⟩ := noted .failedRead after keys
        obtain ⟨again, last⟩ := sameKeys_of_respects (Stake.respects_log _ _ _) read
        exact ⟨same.trans again, last, (passage_adds _).trans (past _ _) (adds_log lines _ _ _)⟩
  · obtain ⟨same, logged⟩ := sameKeys_of_respects (Stake.respects_log .error line hub) keys
    rw [Attempt.run_bind, looked, reading]
    exact ⟨same, logged, adds_log lines _ _ hub⟩

end Keys

end Hub

end LeafHub
