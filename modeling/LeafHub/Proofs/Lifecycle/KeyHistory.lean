import LeafHub.Proofs.Hub.KeyActs
import LeafHub.Proofs.Lifecycle.Reachable

namespace LeafHub

namespace Hub

variable {hub after : Hub} {leaf : LeafId} {bus : String} {cells : KeypadCells} {names : List String}

/-- The event that was stored into a cell, if that is what happened. -/
def eventFor (cell : CellId) : Happening → Option UInt32
  | .stored other _ (.event event) => if other = cell then some event else none
  | _ => none

/-- All events that were ever stored into a cell. -/
def storedEvents (hub : Hub) (cell : CellId) : List UInt32 :=
  hub.journal.toList.filterMap (eventFor cell)

/-- They are among what has happened to the cells of the keys. -/
theorem storedEvents_eq (hub : Hub) (cells : KeypadCells) :
    hub.storedEvents cells.event = (hub.keyChanges cells).filterMap (eventFor cells.event) := by
  rw [storedEvents, keyChanges, List.filterMap_filter]
  congr 1
  funext happening
  split
  · rfl
  · rename_i other
    unfold eventFor
    split
    · rename_i cell name event
      rw [if_neg]
      rintro rfl
      simp [Happening.changed?] at other
    · rfl

theorem Tells.storedEvents {stores : List (CellId × Value)} (tells : hub.Tells cells stores after) :
    after.storedEvents cells.event = hub.storedEvents cells.event ++
      stores.filterMap fun store => eventFor cells.event (.stored store.1 (hub.cell store.1).name store.2) := by
  rw [storedEvents_eq, storedEvents_eq, tells.changes, List.filterMap_append, List.filterMap_map]
  rfl

theorem lastStored_events (events : List UInt32) (cell other : CellId) (value : Value) :
    lastStored (events.map fun event => (cell, .event event)) other value =
      if cell = other then (events.getLast?.map Value.event).getD value else value := by
  induction events generalizing value with
  | nil => simp [lastStored]
  | cons event rest ih =>
    show lastStored _ other (if cell = other then .event event else value) = _
    rw [ih]
    split
    · cases rest <;> simp [List.getLast?_cons]
    · rfl

/-- What a scan leaves in the cells of the keys. -/
theorem Tells.scanned {before now : UInt8} (apart : cells.pins ≠ cells.event)
    (tells : hub.Tells cells (scanStores cells before now) after) (held : hub.value cells.pins = .byte before) :
    after.value cells.pins = .byte now ∧
      after.storedEvents cells.event = hub.storedEvents cells.event ++ keyEvents before now ∧
      (now ≠ before → ∃ event, (keyEvents before now).getLast? = some event ∧ after.value cells.event = .event event) := by
  have pins := tells.values cells.pins (by simp)
  have event := tells.values cells.event (by simp)
  have events := tells.storedEvents
  by_cases same : now = before
  · subst same
    have none : keyEvents now now = [] := by simp [keyEvents, changedKeys]
    rw [scanStores, if_pos rfl] at pins events
    rw [none]
    exact ⟨pins.trans held, events, fun changed => absurd rfl changed⟩
  · rw [scanStores, if_neg same] at pins event events
    refine ⟨?_, ?_, fun _ => ?_⟩
    · refine pins.trans (.trans (lastStored_events _ _ _ _) ?_)
      exact (if_neg apart.symm).trans (if_pos rfl)
    · rw [events]
      simp [eventFor, List.filterMap_map]
    · have some : keyEvents before now ≠ [] := by
        intro none
        have replayed := replay_keyEvents before now
        rw [none] at replayed
        exact same replayed.symm
      obtain ⟨last, there⟩ := Option.isSome_iff_exists.mp (List.getLast?_isSome.mpr some)
      refine ⟨last, there, event.trans (.trans (lastStored_events _ _ _ _) ?_)⟩
      rw [if_pos rfl, there]
      rfl

end Hub

namespace Routine

open Hub

variable {σ α : Type} {app : Application σ} {routine : Routine σ α} {world : World σ} {leaf : LeafId} {bus : String}
  {cells : KeypadCells} {names : List String}

/-- The next step is a scan of the keypad that reads these pins. -/
def NextReads (leaf : LeafId) (bus : String) (cells : KeypadCells) (reached : Routine σ α × World σ) (now : UInt8) : Prop :=
  reached.1.Takes (reached.2.hub.ScansKeys leaf) ∧ reached.2.hub.reading? bus cells = some now

section Runs

variable (application : app.Uses (StakeAct (.ofKeys leaf cells names)))
  (uses : routine.Uses (StakeAct (.ofKeys leaf cells names))) (start : world.hub.Keys leaf bus cells names)

include application uses start

theorem keys_run (limit : Nat) : (routine.run app limit world).2.hub.Keys leaf bus cells names := by
  refine uses.run_keeps (·.Keys leaf bus cells names) (fun _ => True) (fun {β act hub} fine _ keys => ?_)
    (application.body (Stake.allowsTurns_stakeAct _)) start (fun _ => trivial) limit
  by_cases scans : hub.ScansKeys leaf act
  · obtain ⟨before, held⟩ := keys.pins
    exact (keys.scans held scans).2.1
  · exact (sameKeys_stakeAct fine scans keys).2

/-- What a step of the run tells about the keys. -/
theorem tells_next (limit : Nat) :
    (¬(routine.run app limit world).1.Takes ((routine.run app limit world).2.hub.ScansKeys leaf) →
      (routine.run app limit world).2.hub.Tells cells [] (routine.run app (limit + 1) world).2.hub) ∧
    ((routine.run app limit world).1.Takes ((routine.run app limit world).2.hub.ScansKeys leaf) →
      ∀ before, (routine.run app limit world).2.hub.value cells.pins = .byte before →
        (routine.run app limit world).2.hub.Tells cells
          (((routine.run app limit world).2.hub.reading? bus cells).elim [] (scanStores cells before))
          (routine.run app (limit + 1) world).2.hub) := by
  have keys := keys_run application uses start limit
  rw [run_next]
  constructor
  · intro other
    obtain same | ⟨β, act, next, here, fine, after⟩ :=
      (uses.run (application.body (Stake.allowsTurns_stakeAct _)) world limit).step_cases app (routine.run app limit world).2
    · rw [same]
      exact (passage_tells cells).refl _
    · rw [after]
      exact (sameKeys_stakeAct fine (fun scans => other ⟨β, act, next, here, scans⟩) keys).1
  · rintro ⟨β, act, next, here, scans⟩ before held
    rw [here]
    exact (keys.scans held scans).1

/-- The next step in terms of what the keypad reads in it. -/
theorem value_pins_next (limit : Nat) :
    ((∀ now, ¬NextReads leaf bus cells (routine.run app limit world) now) →
      (routine.run app limit world).2.hub.Tells cells [] (routine.run app (limit + 1) world).2.hub) ∧
    ∀ before now, (routine.run app limit world).2.hub.value cells.pins = .byte before →
      NextReads leaf bus cells (routine.run app limit world) now →
        (routine.run app limit world).2.hub.Tells cells (scanStores cells before now) (routine.run app (limit + 1) world).2.hub := by
  obtain ⟨quiet, scanned⟩ := tells_next application uses start limit
  refine ⟨fun none => ?_, fun before now held reads => ?_⟩
  · by_cases scans : (routine.run app limit world).1.Takes ((routine.run app limit world).2.hub.ScansKeys leaf)
    · obtain ⟨before, held⟩ := (keys_run application uses start limit).pins
      have tells := scanned scans before held
      cases reading : (routine.run app limit world).2.hub.reading? bus cells with
      | none => rwa [reading] at tells
      | some now => exact absurd ⟨scans, reading⟩ (none now)
    · exact quiet scans
  · have tells := scanned reads.1 before held
    rwa [reads.2] at tells

/-- The pins that are told are the last ones that were read. -/
theorem last_read (limit : Nat) :
    (∃ last now, last < limit ∧ NextReads leaf bus cells (routine.run app last world) now ∧
      (∀ later other, last < later → later < limit → ¬NextReads leaf bus cells (routine.run app later world) other) ∧
      (routine.run app limit world).2.hub.value cells.pins = .byte now) ∨
    ((∀ earlier other, earlier < limit → ¬NextReads leaf bus cells (routine.run app earlier world) other) ∧
      (routine.run app limit world).2.hub.value cells.pins = world.hub.value cells.pins) := by
  refine shown_of_taken (fun limit => (routine.run app limit world).2.hub.value cells.pins)
    (fun limit => NextReads leaf bus cells (routine.run app limit world)) Value.byte (fun step none => ?_)
    (fun step now reads => ?_) limit
  · exact ((value_pins_next application uses start step).1 none).values cells.pins (by simp)
  · have keys := keys_run application uses start step
    obtain ⟨before, held⟩ := keys.pins
    exact (((value_pins_next application uses start step).2 before now held reads).scanned keys.apart held).1

/-- The events that were stored in a run lead from the pins at its start to those that are told. -/
theorem replayed_run {pins : UInt8} (held : world.hub.value cells.pins = .byte pins) (limit : Nat) :
    ∃ events, (routine.run app limit world).2.hub.storedEvents cells.event =
        world.hub.storedEvents cells.event ++ events ∧
      (routine.run app limit world).2.hub.value cells.pins = .byte (replay pins events) := by
  induction limit with
  | zero => exact ⟨[], (List.append_nil _).symm, held⟩
  | succ limit ih =>
    obtain ⟨events, stored, told⟩ := ih
    obtain ⟨quiet, scanned⟩ := value_pins_next application uses start limit
    by_cases reads : ∃ now, NextReads leaf bus cells (routine.run app limit world) now
    · obtain ⟨now, reads⟩ := reads
      obtain ⟨pinsTold, more, _⟩ :=
        (scanned _ now told reads).scanned (keys_run application uses start limit).apart told
      refine ⟨events ++ keyEvents (replay pins events) now, ?_, ?_⟩
      · rw [more, stored, List.append_assoc]
      · rw [pinsTold, replay_append, replay_keyEvents]
    · have tells := quiet fun now there => reads ⟨now, there⟩
      refine ⟨events, ?_, (tells.values cells.pins (by simp)).trans told⟩
      rw [tells.storedEvents, stored]
      simp

end Runs

/-- While nobody else writes the cells of a keypad's keys, whatever its bus answers and whatever address is set: a scan
that reads other pins stores them and then one event for each changed key, lowest key first, and nothing else that
happens writes these cells. So the pins that are told are the last ones that were read, and the events lead to them.
No act of the keypad makes a transfer to another address than the one set, which then has seven bits. This begins with
the first init of the keypad, in whatever has come of a fresh hub. -/
theorem keypad_tells_changes (application : app.Uses (StakeAct (.ofKeys leaf cells names)))
    (uses : routine.Uses (StakeAct (.ofKeys leaf cells names))) (start : world.hub.Keys leaf bus cells names) :
    (Lives (· ∉ names) (Uses (StakeAct (.ofKeys leaf cells names)) : ∀ {α : Type}, Routine σ α → Prop) ∧
      AllowsTurns (StakeAct (.ofKeys leaf cells names)) ∧
      AllowsOthers (.ofKeys leaf cells names) (StakeAct (.ofKeys leaf cells names))) ∧
    StaysGrounded app ∧
    (∀ (hub : Hub) (name : String) (scanning : Bool), hub.Grounded → hub.keypad? leaf = some ⟨name, none, scanning⟩ →
      ((keypadPhase .init leaf).run.run hub).2.Keys leaf name hub.nextKeypad (keyNames (hub.leaf leaf).name) ∧
      ((keypadPhase .init leaf).run.run hub).2.value hub.nextKeypad.pins = .byte 0xFF ∧
      ((keypadPhase .init leaf).run.run hub).2.keyChanges hub.nextKeypad = [] ∧
      Adds (fun happening => ∀ peer address transfer, happening = .bus peer address transfer → peer = name ∧ address = 0x20)
        hub ((keypadPhase .init leaf).run.run hub).2) ∧
    (∀ limit rest hub own, routine.run app limit world = (rest, ⟨hub, own⟩) → ∃ (before : UInt8) (setting : UInt16),
      hub.value cells.pins = .byte before ∧ hub.value cells.addr = .uint16 setting ∧
      (¬rest.Takes (hub.ScansKeys leaf) → hub.Tells cells [] (routine.run app (limit + 1) world).2.hub) ∧
      (rest.Takes (hub.ScansKeys leaf) →
        (0x7F < setting → hub.Tells cells [] (routine.run app (limit + 1) world).2.hub) ∧
        (∀ fault, (hub.bus bus).readByte.1 = .error fault →
          hub.Tells cells [] (routine.run app (limit + 1) world).2.hub) ∧
        ∀ now, setting ≤ 0x7F → (hub.bus bus).readByte.1 = .ok now →
          (routine.run app (limit + 1) world).2.hub.value cells.pins = .byte now ∧
          (now = before → hub.Tells cells [] (routine.run app (limit + 1) world).2.hub) ∧
          (now ≠ before →
            hub.Tells cells ((cells.pins, .byte now) :: (keyEvents before now).map fun event => (cells.event, .event event))
              (routine.run app (limit + 1) world).2.hub ∧
            ∃ event, (keyEvents before now).getLast? = some event ∧
              (routine.run app (limit + 1) world).2.hub.value cells.event = .event event)) ∧
      (rest.Takes (hub.Attends leaf) →
        Adds (fun happening => ∀ peer address transfer, happening = .bus peer address transfer →
          peer = bus ∧ address.toNat = setting.toNat ∧ setting ≤ 0x7F) hub (routine.run app (limit + 1) world).2.hub)) ∧
    (∀ limit,
      (∃ last now, last < limit ∧ NextReads leaf bus cells (routine.run app last world) now ∧
        (∀ later other, last < later → later < limit → ¬NextReads leaf bus cells (routine.run app later world) other) ∧
        (routine.run app limit world).2.hub.value cells.pins = .byte now) ∨
      ((∀ earlier other, earlier < limit → ¬NextReads leaf bus cells (routine.run app earlier world) other) ∧
        (routine.run app limit world).2.hub.value cells.pins = world.hub.value cells.pins)) ∧
    ∀ pins limit, world.hub.value cells.pins = .byte pins → ∃ events,
      (routine.run app limit world).2.hub.storedEvents cells.event = world.hub.storedEvents cells.event ++ events ∧
      (routine.run app limit world).2.hub.value cells.pins = .byte (replay pins events) := by
  refine ⟨⟨(Stake.ofKeys leaf cells names).lives_stakeAct, Stake.allowsTurns_stakeAct _, Stake.allowsOthers_stakeAct _⟩,
    staysGrounded app, fun hub name scanning grounded holds => grounded.keys holds, ?_, last_read application uses start,
    fun pins limit held => replayed_run application uses start held limit⟩
  intro limit rest hub own ran
  have keys := keys_run application uses start limit
  obtain ⟨quiet, scanned⟩ := tells_next application uses start limit
  have attended : rest.Takes (hub.Attends leaf) →
      Adds (hub.Addressed bus cells) hub (routine.run app (limit + 1) world).2.hub := by
    rw [run_next, ran]
    rw [ran] at keys
    rintro ⟨β, act, next, rfl, attends⟩
    exact keys.attends attends
  rw [ran] at keys quiet scanned
  obtain ⟨before, held⟩ := keys.pins
  obtain ⟨setting, addressed⟩ := keys.setting
  have reading : hub.reading? bus cells = if setting ≤ 0x7F then (hub.bus bus).readByte.1.toOption else none := by
    rw [reading?, uint16?, addressed]
    rfl
  refine ⟨before, setting, held, addressed, quiet, fun scans => ?_, fun attends => ?_⟩
  · have tells := scanned scans before held
    rw [reading] at tells
    refine ⟨fun large => ?_, fun fault failed => ?_, fun now small read => ?_⟩
    · rwa [if_neg (UInt16.not_le.mpr large)] at tells
    · rw [failed] at tells
      split at tells <;> exact tells
    · rw [if_pos small, read] at tells
      obtain ⟨pins, _, last⟩ := Tells.scanned keys.apart tells held
      change hub.Tells cells (scanStores cells before now) _ at tells
      rw [scanStores] at tells
      refine ⟨pins, fun same => ?_, fun changed => ⟨?_, last changed⟩⟩
      · rwa [if_pos same] at tells
      · rwa [if_neg changed] at tells
  · obtain ⟨more, journal, fine⟩ := attended attends
    refine ⟨more, journal, fun happening member peer address transfer same => ?_⟩
    obtain ⟨own, target, small⟩ := fine happening member peer address transfer same
    rw [uint16?, addressed] at target
    refine ⟨own, target, ?_⟩
    rw [UInt16.le_iff_toNat_le]
    rw [UInt8.le_iff_toNat_le] at small
    exact target ▸ small

/-- A hub with one keypad, on which a key is pressed and then another one. -/
def tapHub : Hub :=
  { fresh .standard with
    leaves := ⟨#[Leaf.fresh ⟨"pad", none, .keypad⟩ "kp" (some (.keypadOn "bus"))]⟩
    buses := [("bus", ⟨[0xFE, 0xFB], [none, none, some .bus]⟩)] }

/-- The keypad has been inited. -/
def tapWorld : World Unit where
  hub := ((keypadPhase .init 0).run.run tapHub).2
  own := ()

/-- Asks for three scans, the second of which fails. -/
def tapTwice : Routine Unit Unit := do
  discard (Hub.keypadCommand 0 ["scan"])
  discard (Hub.keypadCommand 0 ["scan"])
  discard (Hub.keypadCommand 0 ["scan"])

theorem keypad_tells_changes_tapping :
    (tapTwice.run .silent 3 tapWorld).2.hub.storedEvents tapHub.nextKeypad.event =
        [0x08000001, 0x04000001, 0x08000004] ∧
      ∃ events, (tapTwice.run .silent 3 tapWorld).2.hub.storedEvents tapHub.nextKeypad.event = events ∧
        (tapTwice.run .silent 3 tapWorld).2.hub.value tapHub.nextKeypad.pins = .byte (replay 0xFF events) := by
  have scan : StakeAct (.ofKeys 0 tapHub.nextKeypad (keyNames "kp")) (Hub.keypadCommand 0 ["scan"]) :=
    .own (.keypadCommand ["scan"])
  have scanned : (discard (liftM (Hub.keypadCommand 0 ["scan"])) : Routine Unit Unit).Uses
      (StakeAct (.ofKeys 0 tapHub.nextKeypad (keyNames "kp"))) := uses_bind (uses_act scan) fun _ => uses_pure _
  have uses : tapTwice.Uses (StakeAct (.ofKeys 0 tapHub.nextKeypad (keyNames "kp"))) :=
    uses_bind scanned fun _ => uses_bind scanned fun _ => scanned
  have grounded : tapHub.Grounded := (reachable_single .standard [] _ rfl).rooted.grounded
  have holds : tapHub.keypad? 0 = some ⟨"bus", none, false⟩ := rfl
  have start : tapWorld.hub.Keys 0 "bus" tapHub.nextKeypad (keyNames "kp") := by
    simp only [tapWorld]
    exact (grounded.keys holds).1
  have held : tapWorld.hub.value tapHub.nextKeypad.pins = .byte 0xFF := by decide +kernel
  have none : tapWorld.hub.storedEvents tapHub.nextKeypad.event = [] := by decide +kernel
  obtain ⟨_, _, _, _, _, replayed⟩ := keypad_tells_changes Application.uses_silent uses start
  obtain ⟨events, stored, told⟩ := replayed 0xFF 3 held
  rw [none] at stored
  exact ⟨by decide +kernel, events, stored, told⟩

end Routine

end LeafHub
