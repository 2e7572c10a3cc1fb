import LeafHub.Proofs.Hub.Beacon

namespace LeafHub

open Hub Passage

namespace Hub

variable {hub after : Hub} {leaf : LeafId} {pin : String} {counter? : Option CellId} {names : List String}

section Drive

theorem drove_asked (hub : Hub) (pin : String) (level : Bool) : hub.Drove pin level (hub.asked pin level) where
  driven := hub.pin_asked pin level
  requests := by simp [pinRequests, asked, Happening.pinRequest?]

/-- An LED that asks its pin for a level knows what came of it. One without cells asks for no light. -/
theorem Beacon.driveLed (beacon : hub.Beacon leaf pin counter? names) {level : Bool}
    (may : level = true → ∀ lit, hub.led? leaf ≠ some ⟨pin, none, lit⟩) : ∃ after,
    (driveLed leaf level).run.run hub = (if ((hub.pin pin).drive level).1 then .ok () else .error .io, after) ∧
      hub.Drove pin level after ∧ (∀ counter ∈ counter?, after.value counter = hub.value counter) ∧
        after.Beacon leaf pin counter? names := by
  obtain ⟨made, holds, dark, counts⟩ := beacon.holds
  have ran := run_driveLed holds level
  have drove := hub.drove_asked pin level
  have next := high_drive (hub.pin pin) level
  rw [← drove.driven] at next
  have asked := beacon.sole.asked pin level
  split at ran
  · rename_i taken
    rw [if_pos taken]
    rw [if_pos taken] at next
    refine ⟨_, ran, ⟨drove.driven, drove.requests⟩, fun _ _ => rfl, ?_⟩
    have own : ((setContext leaf (.led ⟨pin, made, level⟩)).run (hub.asked pin level)).2.led? leaf =
        some ⟨pin, made, ((hub.asked pin level).pin pin).high⟩ := by
      have known : leaf < (hub.asked pin level).leaves.size := beacon.sole.known
      rw [led?_eq_some, leaf_setContext known, next]
    have low (bare : made = none) : ((hub.asked pin level).pin pin).high = false := by
      rw [next, ← Bool.not_eq_true]
      exact fun high => may high _ (bare ▸ holds)
    exact
      { holds := ⟨made, own, low, counts⟩
        sole := asked.setContext _
        counts := beacon.counts }
  · rename_i refused
    rw [if_neg refused]
    rw [if_neg refused] at next
    have still : (hub.asked pin level).Beacon leaf pin counter? names :=
      { holds := ⟨made, by rw [next]; exact holds, by rw [next]; exact dark, counts⟩
        sole := asked
        counts := beacon.counts }
    have keeping := housekeeping_keepsResting leaf pin counter? names
    obtain ⟨rests, later⟩ := keeping.logged .error "LED pin write failed (Other)" _ still
    exact ⟨_, ran, ⟨rests.same.trans drove.driven, rests.requests.trans drove.requests⟩, rests.count, later⟩

theorem adds_count (hub : Hub) (id : CellId) (delta : Int64) :
    Adds NoRequest hub ((Hub.count id delta).run.run hub).2 := by
  rw [run_count]
  split
  · rename_i n _
    have put : Adds NoRequest hub (hub.putNoted id (.int64 (n + delta)) (.counted id (hub.cell id).name (n + delta))) :=
      adds_of_push (noRequest_counted _ _ _) rfl
    exact (passage_adds _).trans put (adds_notify noRequest_log id _)
  · exact adds_of_same rfl

/-- The LED counts one more in its own cell. -/
theorem Beacon.count (beacon : hub.Beacon leaf pin counter? names) {counter : CellId} (own : counter ∈ counter?) :
    (∀ n, hub.value counter = .int64 n → ((Hub.count counter 1).run.run hub).2.value counter = .int64 (n + 1)) ∧
      ((Hub.count counter 1).run.run hub).2.pin pin = hub.pin pin ∧
      ((Hub.count counter 1).run.run hub).2.Beacon leaf pin counter? names := by
  have kind := (beacon.sole.sound.coherent.kind_value counter).trans (beacon.counts counter own)
  obtain ⟨n, held⟩ : ∃ n, hub.value counter = .int64 n := by
    cases held : hub.value counter with
    | int64 n => exact ⟨n, rfl⟩
    | _ => rw [held] at kind; cases kind
  have ran := run_count hub counter 1
  rw [held] at ran
  dsimp only at ran
  have sort : (Value.int64 (n + 1)).kind = (hub.cell counter).kind := (beacon.counts counter own).symm
  have known := (beacon.sole.cells counter (Option.mem_toList.mpr own)).1
  have changed : (Happening.counted counter (hub.cell counter).name (n + 1)).changed? = some counter := rfl
  obtain ⟨written, queues, journal, told, wrote, continues, sole⟩ := beacon.sole.told rfl known sort changed
  rw [ran, told]
  have pins : Hub.pin { written with queues, journal } pin = hub.pin pin :=
    congrArg (fun pins => (Directory.get? pins pin).getD _) wrote.pins
  have led : Hub.led? { written with queues, journal } leaf = hub.led? leaf := by
    rw [led?, led?, Hub.leaf, Hub.leaf]
    exact wrote.leaves ▸ rfl
  refine ⟨fun m same => ?_, pins, ?_⟩
  · cases held.symm.trans same
    exact wrote.value
  · exact
      { holds := by
          rw [led, pins]
          exact beacon.holds
        sole := sole
        counts := fun other mine => by
          have there := (beacon.sole.cells other (Option.mem_toList.mpr mine)).1
          exact (continues.kind other there).trans (beacon.counts other mine) }

/-- An LED counts, in whatever cell it has for that. -/
theorem Beacon.countRise (beacon : hub.Beacon leaf pin counter? names) {cells : LedCells} {lit : Bool}
    (holds : hub.led? leaf = some ⟨pin, some cells, lit⟩) :
    (∀ counter ∈ counter?, ∀ n, hub.value counter = .int64 n →
      ((Hub.count cells.blinks 1).run.run hub).2.value counter = .int64 (n + 1)) ∧
    ((Hub.count cells.blinks 1).run.run hub).2.pin pin = hub.pin pin ∧
    ((Hub.count cells.blinks 1).run.run hub).2.pinRequests pin = hub.pinRequests pin ∧
    ((Hub.count cells.blinks 1).run.run hub).2.Beacon leaf pin counter? names := by
  have quiet := pinRequests_of_adds (hub.adds_count cells.blinks 1) pin
  obtain ⟨made, held, _, counts⟩ := beacon.holds
  rw [held] at holds
  cases holds
  cases counter? with
  | none =>
    have respects : (Stake.ofBeacon leaf pin none names).Respects hub ((Hub.count cells.blinks 1).run.run hub).2 :=
      Stake.respects_count List.not_mem_nil 1
    obtain ⟨idles, later⟩ := beacon.respected respects
    exact ⟨nofun, idles.same, quiet, later⟩
  | some counter =>
    obtain ⟨_, same, rfl, _⟩ := counts counter rfl
    cases same
    obtain ⟨counted, pins, later⟩ := beacon.count rfl
    exact ⟨fun counter own => Option.some.inj own ▸ counted, pins, quiet, later⟩

end Drive

section Acts

theorem Beacon.showLed (beacon : hub.Beacon leaf pin counter? names) {level : Bool}
    (timely : level = true → (hub.pin pin).high = false)
    (may : level = true → ∀ lit, hub.led? leaf ≠ some ⟨pin, none, lit⟩) :
    hub.Tracks leaf pin counter? names ((Hub.showLed leaf level).run.run hub).2 := by
  obtain ⟨driven, ran, drove, same, later⟩ := beacon.driveLed may
  have level' := high_drive (hub.pin pin) level
  rw [← drove.driven] at level'
  unfold Hub.showLed
  rw [Attempt.run_bind, ran]
  by_cases taken : ((hub.pin pin).drive level).1 = true
  · rw [if_pos taken] at level' ⊢
    dsimp only
    cases level with
    | false =>
      have count (counter : CellId) (own : counter ∈ counter?) (n : Int64) (held : hub.value counter = .int64 n) :
          driven.value counter = .int64 n := (same counter own).trans held
      exact ⟨.inr ⟨false, drove, timely, count⟩, later⟩
    | true =>
      obtain ⟨made, holds, dark, _⟩ := later.holds
      cases made with
      | none => exact absurd ((dark rfl).symm.trans level') Bool.false_ne_true
      | some cells =>
        obtain ⟨counted, pins, requests, last⟩ := later.countRise holds
        have ran : ((do discard (Hub.count (← ledCellsOf leaf).blinks 1) : Attempt Unit).run.run driven).2 =
            ((Hub.count cells.blinks 1).run.run driven).2 := by
          rw [Attempt.run_bind_of (run_ledCellsOf holds), Attempt.run_discard]
        rw [if_pos rfl, ran]
        have driven : hub.Drove pin true _ := ⟨pins.trans drove.driven, requests.trans drove.requests⟩
        refine ⟨.inr ⟨true, driven, timely, fun counter own n held => ?_⟩, last⟩
        rw [taken]
        exact counted counter own n ((same counter own).trans held)
  · rw [if_neg taken]
    refine ⟨.inr ⟨level, drove, timely, fun counter own n held => ?_⟩, later⟩
    rw [Bool.eq_false_iff.mpr taken, Bool.and_false]
    exact (same counter own).trans held

/-- An LED asks its pin for what its cells ask for, if that is not what the pin shows. -/
theorem Beacon.applyLed (beacon : hub.Beacon leaf pin counter? names) :
    hub.Tracks leaf pin counter? names ((Hub.applyLed leaf).run.run hub).2 := by
  obtain ⟨made, holds, dark, counts⟩ := beacon.holds
  rw [run_applyLed holds]
  split
  · exact ⟨.inl ((passage_rests pin counter?).refl hub), beacon⟩
  · rename_i different
    generalize wanted : hub.ledWanted ⟨pin, made, (hub.pin pin).high⟩ = level at different
    have timely (high : level = true) : (hub.pin pin).high = false := by
      rw [high] at different
      exact Bool.eq_false_iff.mpr (Ne.symm different)
    have may (high : level = true) (lit : Bool) : hub.led? leaf ≠ some ⟨pin, none, lit⟩ := by
      intro bare
      rw [holds] at bare
      cases bare
      rw [high] at wanted
      exact absurd wanted Bool.false_ne_true
    have line := (housekeeping_keepsResting leaf pin counter? names).logged .debug
      (if level then "LED on" else "LED off") hub beacon
    obtain ⟨rests, logged⟩ := line
    exact rests.tracks (logged.showLed timely may)

/-- An LED that asks for the dark has nothing to count. -/
theorem Beacon.darken (beacon : hub.Beacon leaf pin counter? names) : ∃ after,
    (Hub.driveLed leaf false).run.run hub = (if ((hub.pin pin).drive false).1 then .ok () else .error .io, after) ∧
      hub.Asks pin counter? false after ∧ after.Beacon leaf pin counter? names := by
  have never : false = true → ∀ lit, hub.led? leaf ≠ some ⟨pin, none, lit⟩ := nofun
  obtain ⟨driven, ran, drove, same, later⟩ := beacon.driveLed never
  exact ⟨driven, ran, ⟨drove, nofun, fun counter own n held => (same counter own).trans held⟩, later⟩

/-- What the init of an LED does once there are cells: it asks for the dark, and the rest is not about the pin. -/
theorem Beacon.readyLed (beacon : hub.Beacon leaf pin counter? names) :
    hub.Asks pin counter? false ((Hub.readyLed leaf).run.run hub).2 ∧
      ((Hub.readyLed leaf).run.run hub).2.Beacon leaf pin counter? names := by
  have keeping := housekeeping_keepsResting leaf pin counter? names
  have marked := keeping.markLed (adjustsWithin_keepsResting leaf pin counter? names).led
  obtain ⟨driven, ran, asks, later⟩ := beacon.darken
  exact asks.kept later (keeping.readyLed_after marked (keepsResting_registerCommand leaf pin counter? names) ran)

/-- Making its cells is not about the pin of an LED. -/
theorem Beacon.ledMade (beacon : hub.Beacon leaf pin none names) {lit : Bool}
    (bare : hub.led? leaf = some ⟨pin, none, lit⟩) (lines : List (Level × String)) :
    hub.Rests pin none (hub.ledMade leaf pin lit lines) ∧
      (hub.ledMade leaf pin lit lines).Beacon leaf pin none names := by
  have sound : (hub.ledMade leaf pin lit lines).WellFormed := wellFormed_ledMade lines beacon.sole.sound
  have grown : (Stake.ofBeacon leaf pin none names).Sole (hub.grow (hub.ledGrowth leaf lines)) :=
    { known := beacon.sole.known
      sound := sound.of_same rfl rfl
      cells := fun cell own => absurd own List.not_mem_nil
      named := fun cell own => absurd own List.not_mem_nil
      serves := fun item own => absurd own (Option.not_mem_none item)
      clear := beacon.sole.clear }
  have quiet : Adds NoRequest hub (hub.ledMade leaf pin lit lines) := adds_of_lines noRequest_log rfl
  obtain ⟨made, holds, _⟩ := beacon.holds
  rw [holds] at bare
  cases bare
  refine ⟨⟨⟨rfl, nofun⟩, pinRequests_of_adds quiet pin⟩, ?_⟩
  exact
    { holds := ⟨_, led?_made lines beacon.sole.known, nofun, nofun⟩
      sole := grown.setContext _
      counts := nofun }

theorem Beacon.initLed (beacon : hub.Beacon leaf pin counter? names) :
    hub.Tracks leaf pin counter? names ((ledPhase .init leaf).run.run hub).2 := by
  obtain ⟨made, holds, _, counts⟩ := beacon.holds
  cases made with
  | some cells =>
    rw [run_again_ledPhase holds]
    obtain ⟨asks, later⟩ := beacon.readyLed
    exact ⟨.inr ⟨false, asks⟩, later⟩
  | none =>
    obtain rfl : counter? = none := by
      cases counter? with
      | none => rfl
      | some counter =>
        obtain ⟨_, same, _⟩ := counts counter rfl
        cases same
    obtain ⟨lines, ran⟩ := run_first_ledPhase holds
    obtain ⟨rests, made⟩ := beacon.ledMade holds lines
    obtain ⟨asks, later⟩ := made.readyLed
    rw [ran]
    exact ⟨.inr ⟨false, rests.asks asks⟩, later⟩

/-- An LED that has not been inited, with a dark pin that no other LED has. -/
theorem beacon_fresh (sound : hub.WellFormed) (bare : hub.led? leaf = some ⟨pin, none, false⟩)
    (dark : (hub.pin pin).high = false)
    (apart : ∀ other state, other ≠ leaf → hub.led? other = some state → state.pin ≠ pin) :
    hub.Beacon leaf pin none [] where
  holds := ⟨none, by rw [bare, dark], fun _ => dark, nofun⟩
  sole :=
    { known := known_of_context (led?_eq_some.mp bare)
      sound := sound
      cells := fun _ own => absurd own List.not_mem_nil
      named := fun _ own => absurd own List.not_mem_nil
      serves := fun item own => absurd own (Option.not_mem_none item)
      clear := fun other context elsewhere holds => by
        cases context with
        | led state =>
          have other := apart other state elsewhere (led?_eq_some.mpr holds)
          exact ⟨fun own => other (List.mem_singleton.mp own), fun _ _ _ _ => List.not_mem_nil⟩
        | keypad state => exact fun _ _ => ⟨Option.not_mem_none _, fun _ _ => List.not_mem_nil⟩
        | settings store => trivial
        | number n => trivial
        | text s => trivial }
  counts := nofun

/-- The names of the cells in which an LED counts. -/
def countNames (name : String) : List String := [Cell.boundedName (Cell.prefixedName name ledBlinks.name)]

/-- The cell that has been made for counting is the LED's own. -/
theorem Grounded.beacon_made (grounded : hub.Grounded) (beacon : hub.Beacon leaf pin none names) {lit : Bool}
    (bare : hub.led? leaf = some ⟨pin, none, lit⟩) (lines : List (Level × String)) :
    (hub.ledMade leaf pin lit lines).Beacon leaf pin (some hub.nextLed.blinks) (countNames (hub.leaf leaf).name) := by
  have known : leaf < hub.leaves.size := beacon.sole.known
  have blinks : (hub.ledMade leaf pin lit lines).cell hub.nextLed.blinks = _ := blinks_made lines
  have sound : (hub.ledMade leaf pin lit lines).WellFormed := wellFormed_ledMade lines grounded.sound
  have sole : (Stake.ofBeacon leaf pin (some hub.nextLed.blinks) (countNames (hub.leaf leaf).name)).Sole
      (hub.grow (hub.ledGrowth leaf lines)) := by
    have apart : ∀ other state, other ≠ leaf → hub.led? other = some state →
        state.pin ∉ (Stake.ofBeacon leaf pin none (countNames (hub.leaf leaf).name)).pins :=
      fun other state elsewhere held => (beacon.sole.clear other _ elsewhere (led?_eq_some.mp held)).1
    refine grounded.sole_grow known (extends_led hub leaf lines) (sound.of_same rfl rfl) (fun cell member => ?_)
      (fun item own => absurd own (Option.not_mem_none item)) apart
    obtain rfl : cell = hub.nextLed.blinks := List.mem_singleton.mp member
    have size : (hub.ledGrowth leaf lines).cells.size = hub.cells.size + 4 := by simp [ledGrowth]
    refine ⟨by simp [nextLed], by simp [nextLed, size], fun listed => ?_, ?_⟩
    · rcases List.mem_append.mp listed with old | new
      · exact absurd (grounded.settings _ old) (by simp [nextLed])
      · simp [nextLed] at new
    · rw [show (hub.ledGrowth leaf lines).cells.get hub.nextLed.blinks = _ from blinks]
      exact List.mem_cons_self
  obtain ⟨made, holds, _⟩ := (beacon.ledMade bare lines).2.holds
  obtain rfl : some hub.nextLed = made :=
    congrArg LedState.cells (Option.some.inj ((led?_made lines known).symm.trans holds))
  refine
    { holds := ⟨_, holds, fun none => absurd none (Option.some_ne_none _),
        fun counter own => ⟨_, rfl, Option.some.inj own, ?_⟩⟩
      sole := sole.setContext _
      counts := fun counter own => ?_ }
  · cases own
    simp [nextLed]
  · cases own
    rw [blinks]
    rfl

/-- After its first init an LED has counted nothing. -/
theorem Grounded.beacon (grounded : hub.Grounded) (beacon : hub.Beacon leaf pin none names) {lit : Bool}
    (bare : hub.led? leaf = some ⟨pin, none, lit⟩) :
    ((Hub.ledPhase .init leaf).run.run hub).2.Beacon leaf pin (some hub.nextLed.blinks)
        (countNames (hub.leaf leaf).name) ∧
      ((Hub.ledPhase .init leaf).run.run hub).2.value hub.nextLed.blinks = .int64 0 := by
  obtain ⟨lines, ran⟩ := run_first_ledPhase bare
  obtain ⟨asks, later⟩ := (grounded.beacon_made beacon bare lines).readyLed
  rw [ran]
  refine ⟨later, asks.count _ rfl 0 ?_⟩
  rw [Hub.value, blinks_made lines]
  rfl

theorem Beacon.ledPhase (beacon : hub.Beacon leaf pin counter? names) (phase : Phase) :
    hub.Tracks leaf pin counter? names ((Hub.ledPhase phase leaf).run.run hub).2 := by
  have darkened : hub.Tracks leaf pin counter? names ((Hub.driveLed leaf false).run.run hub).2 := by
    obtain ⟨driven, ran, asks, later⟩ := beacon.darken
    rw [ran]
    exact ⟨.inr ⟨false, asks⟩, later⟩
  cases phase with
  | init => exact beacon.initLed
  | start => exact beacon.applyLed
  | stop => exact darkened
  | preSleep => exact darkened
  | postSleep =>
    have looked : (Hub.ledPhase .postSleep leaf).run.run hub =
        ((if (hub.leaf leaf).running then Hub.applyLed leaf else pure () : Attempt Unit).run.run hub) := rfl
    rw [looked]
    split
    · exact beacon.applyLed
    · exact beacon.rested ((passage_keepsResting leaf pin counter? names).refl hub)

end Acts

section Turns

variable {β : Type} {act : Act β}

theorem keyless_keepsResting (hub after : Hub) (state : KeypadState) (holds : hub.keypad? leaf = some state) :
    KeepsResting leaf pin counter? names hub after := by
  intro beacon
  obtain ⟨made, led, _⟩ := beacon.holds
  exact absurd (led.symm.trans (led?_of_keypad? holds)) (Option.some_ne_none _)

/-- What an LED does when it hears of a change. -/
theorem Beacon.ledChanged (beacon : hub.Beacon leaf pin counter? names) :
    hub.Tracks leaf pin counter? names ((Hub.ledChanged leaf).run hub).2 := by
  have keeping := housekeeping_keepsResting leaf pin counter? names
  by_cases awake : (hub.isAlive leaf && (hub.leaf leaf).running && (hub.led? leaf).isSome) = true
  · exact beacon.applyLed.rest (keeping.ledChanged_after awake)
  · rw [run_ledChanged_of_idle awake]
    exact beacon.rested (keeping.refl hub)

theorem keepsResting_turned (names : List String) (queue : QueueId) :
    KeepsResting leaf pin counter? names hub (hub.turned queue) :=
  keepsResting_of_respects (Stake.respects_turned nofun) (adds_turned noRequest_began queue)

/-- What the acts of an LED come to: it asks its pin once or not at all. -/
theorem Beacon.attends (beacon : hub.Beacon leaf pin counter? names) (attends : hub.Attends leaf act) :
    hub.Tracks leaf pin counter? names (act.run hub).2 := by
  have keeping := housekeeping_keepsResting leaf pin counter? names
  have adjusts := adjustsWithin_keepsResting leaf pin counter? names
  cases attends with
  | own own =>
    cases own with
    | led phase => exact beacon.ledPhase phase
    | keypad phase => exact beacon.rested (keeping.keypadPhase_keyless keyless_keepsResting phase hub)
    | ledCommand args => exact beacon.rested (keeping.ledCommand adjusts args hub)
    | keypadCommand args => exact beacon.rested (keeping.keypadCommand_keyless keyless_keepsResting adjusts args hub)
  | @turn queue item starts own =>
    obtain ⟨rests, turned⟩ := keepsResting_turned names queue beacon
    rw [run_takeTurn, starts]
    dsimp only
    cases handled : (hub.items.get item).handler with
    | ledChange id =>
      rw [handled] at own
      cases own
      exact rests.tracks turned.ledChanged
    | keypadScan id =>
      rw [handled] at own
      cases own
      exact rests.tracks (turned.rested (keeping.tickKeypad_keyless keyless_keepsResting _))
    | custom behaviour =>
      rw [handled] at own
      cases own

/-- Everything else leaves pin and counter alone. -/
theorem Beacon.aside (beacon : hub.Beacon leaf pin counter? names)
    (fine : StakeAct (.ofBeacon leaf pin counter? names) act) (other : ¬hub.Attends leaf act) :
    hub.Idles pin counter? (act.run hub).2 ∧ (act.run hub).2.Beacon leaf pin counter? names := by
  cases fine with
  | aside respects => exact beacon.respected (respects hub)
  | own own => exact absurd (.own own) other
  | turn queue =>
    refine beacon.respected (Stake.respects_takeTurn fun item starts mine => ?_)
    exact other (.turn starts mine)

end Turns

end Hub

end LeafHub
