import LeafHub.Proofs.Hub.BeaconActs
import LeafHub.Proofs.Lifecycle.Reachable

namespace LeafHub

namespace Hub

variable {hub after : Hub} {pin : String} {counter? : Option CellId}

/-- The pin was dark and is not any more. -/
def rose (hub : Hub) (pin : String) (after : Hub) : Bool :=
  !(hub.pin pin).high && (after.pin pin).high

theorem Idles.counted (idles : hub.Idles pin counter? after) {counter : CellId} (own : counter ∈ counter?) :
    hub.rose pin after = false ∧ after.value counter = hub.value counter := by
  refine ⟨?_, idles.count counter own⟩
  rw [rose, idles.same]
  exact Bool.not_and_self _

/-- A request that lets the pin rise is for light and is taken. There is no other request for light that is taken. -/
theorem Asks.rose_eq {level : Bool} (asks : hub.Asks pin counter? level after) :
    hub.rose pin after = (level && ((hub.pin pin).drive level).1) := by
  rw [rose, asks.driven, high_drive]
  cases level with
  | false => cases (hub.pin pin).high <;> simp
  | true =>
    rw [asks.timely rfl]
    cases ((hub.pin pin).drive true).1 <;> rfl

theorem Asks.counted {level : Bool} (asks : hub.Asks pin counter? level after) {counter : CellId}
    (own : counter ∈ counter?) {n : Int64} (held : hub.value counter = .int64 n) :
    after.value counter = .int64 (if hub.rose pin after then n + 1 else n) := by
  rw [asks.rose_eq]
  exact asks.count counter own n held

end Hub

namespace Routine

open Hub

variable {σ α : Type} {app : Application σ} {routine : Routine σ α} {world : World σ} {leaf : LeafId} {pin : String}
  {counter? : Option CellId} {names : List String}

/-- How often a pin rose in the first steps of a run. -/
def rises (app : Application σ) (routine : Routine σ α) (world : World σ) (pin : String) (limit : Nat) : Nat :=
  (List.range limit).countP fun step =>
    (routine.run app step world).2.hub.rose pin (routine.run app (step + 1) world).2.hub

theorem rises_succ (limit : Nat) : rises app routine world pin (limit + 1) = rises app routine world pin limit +
    if (routine.run app limit world).2.hub.rose pin (routine.run app (limit + 1) world).2.hub then 1 else 0 := by
  rw [rises, List.range_succ, List.countP_append, List.countP_singleton]
  rfl

/-- In this step the LED asks its pin for a level and the pin takes it. -/
def PinTakes (app : Application σ) (routine : Routine σ α) (world : World σ) (leaf : LeafId) (pin : String) (step : Nat)
    (level : Bool) : Prop :=
  (routine.run app step world).1.Takes ((routine.run app step world).2.hub.Attends leaf) ∧
    (routine.run app (step + 1) world).2.hub.pinRequests pin =
      (routine.run app step world).2.hub.pinRequests pin ++ [(level, true)]

section Runs

variable (application : app.Uses (StakeAct (.ofBeacon leaf pin counter? names)))
  (uses : routine.Uses (StakeAct (.ofBeacon leaf pin counter? names)))
  (start : world.hub.Beacon leaf pin counter? names)

include application uses start

theorem beacon_run (limit : Nat) : (routine.run app limit world).2.hub.Beacon leaf pin counter? names := by
  refine uses.run_keeps (·.Beacon leaf pin counter? names) (fun _ => True) (fun {β act hub} fine _ beacon => ?_)
    (application.body (Stake.allowsTurns_stakeAct _)) start (fun _ => trivial) limit
  by_cases attends : hub.Attends leaf act
  · exact (beacon.attends attends).later
  · exact (beacon.aside fine attends).2

/-- What a step of the run does to the pin. -/
theorem asks_next (limit : Nat) :
    ((routine.run app limit world).1.Takes ((routine.run app limit world).2.hub.Attends leaf) →
      (routine.run app limit world).2.hub.Rests pin counter? (routine.run app (limit + 1) world).2.hub ∨
      ∃ level, (routine.run app limit world).2.hub.Asks pin counter? level (routine.run app (limit + 1) world).2.hub) ∧
    (¬(routine.run app limit world).1.Takes ((routine.run app limit world).2.hub.Attends leaf) →
      (routine.run app limit world).2.hub.Idles pin counter? (routine.run app (limit + 1) world).2.hub) := by
  have beacon := beacon_run application uses start limit
  rw [run_next]
  constructor
  · rintro ⟨β, act, next, here, attends⟩
    rw [here]
    exact (beacon.attends attends).asked
  · intro other
    have rest := uses.run (application.body (Stake.allowsTurns_stakeAct _)) world limit
    obtain same | ⟨β, act, next, here, fine, after⟩ := rest.step_cases app (routine.run app limit world).2
    · rw [same]
      exact ((passage_rests pin counter?).refl _).toIdles
    · rw [after]
      exact (beacon.aside fine fun attends => other ⟨β, act, next, here, attends⟩).1

/-- A step in which the pin takes no level leaves it alone. -/
theorem pin_next (limit : Nat) :
    ((∀ level, ¬PinTakes app routine world leaf pin limit level) →
      ((routine.run app (limit + 1) world).2.hub.pin pin).high = ((routine.run app limit world).2.hub.pin pin).high) ∧
    ∀ level, PinTakes app routine world leaf pin limit level →
      ((routine.run app (limit + 1) world).2.hub.pin pin).high = level := by
  obtain ⟨attended, aside⟩ := asks_next application uses start limit
  constructor
  · intro none
    by_cases attends : (routine.run app limit world).1.Takes ((routine.run app limit world).2.hub.Attends leaf)
    · obtain rests | ⟨level, asks⟩ := attended attends
      · rw [rests.same]
      · rw [asks.driven, high_drive, if_neg]
        intro taken
        have requests := asks.requests
        rw [taken] at requests
        exact none level ⟨attends, requests⟩
    · rw [(aside attends).same]
  · rintro level ⟨attends, requests⟩
    obtain rests | ⟨other, asks⟩ := attended attends
    · rw [rests.requests] at requests
      exact absurd requests.symm (by simp)
    · have same := List.append_cancel_left (asks.requests.symm.trans requests)
      obtain ⟨rfl, taken⟩ := Prod.mk.inj (List.singleton_inj.mp same)
      rw [asks.driven, high_drive, if_pos taken]

/-- The pin is at the level that it took last. -/
theorem last_taken (limit : Nat) :
    (∃ last level, last < limit ∧ PinTakes app routine world leaf pin last level ∧
      (∀ later other, last < later → later < limit → ¬PinTakes app routine world leaf pin later other) ∧
      ((routine.run app limit world).2.hub.pin pin).high = level) ∨
    ((∀ earlier other, earlier < limit → ¬PinTakes app routine world leaf pin earlier other) ∧
      ((routine.run app limit world).2.hub.pin pin).high = (world.hub.pin pin).high) :=
  shown_of_taken (fun limit => ((routine.run app limit world).2.hub.pin pin).high)
    (PinTakes app routine world leaf pin) id (fun step => (pin_next application uses start step).1)
    (fun step => (pin_next application uses start step).2) limit

/-- What is counted is how often the pin rose. -/
theorem counted_run {counter : CellId} (own : counter ∈ counter?) {n : Int64}
    (held : world.hub.value counter = .int64 n) (limit : Nat) :
    (routine.run app limit world).2.hub.value counter =
      .int64 (n + Int64.ofNat (rises app routine world pin limit)) := by
  induction limit with
  | zero =>
    rw [show rises app routine world pin 0 = 0 from rfl]
    exact held.trans (congrArg Value.int64 (Int64.add_zero n).symm)
  | succ limit ih =>
    obtain ⟨attended, aside⟩ := asks_next application uses start limit
    have idle (idles : (routine.run app limit world).2.hub.Idles pin counter?
        (routine.run app (limit + 1) world).2.hub) :
        (routine.run app (limit + 1) world).2.hub.value counter =
          .int64 (n + Int64.ofNat (rises app routine world pin (limit + 1))) := by
      obtain ⟨still, same⟩ := idles.counted own
      rw [same, ih, rises_succ, still]
      rfl
    by_cases attends : (routine.run app limit world).1.Takes ((routine.run app limit world).2.hub.Attends leaf)
    · obtain rests | ⟨level, asks⟩ := attended attends
      · exact idle rests.toIdles
      · rw [asks.counted own ih, rises_succ]
        split
        · rw [Int64.ofNat_add, ← Int64.add_assoc]
          rfl
        · rfl
    · exact idle (aside attends)

end Runs

/-- While an LED has its pin to itself and nobody else writes the cell in which it counts, whichever requests the pin
refuses: the LED knows the level of its pin, which is the one that the pin took last; it asks for light only in the
dark; and what it has counted is, up to overflow, how often the pin rose. This begins with the first init of the LED, in
whatever has come of a fresh hub. -/
theorem led_counts_rises (application : app.Uses (StakeAct (.ofBeacon leaf pin counter? names)))
    (uses : routine.Uses (StakeAct (.ofBeacon leaf pin counter? names)))
    (start : world.hub.Beacon leaf pin counter? names) :
    (Lives (· ∉ names) (Uses (StakeAct (.ofBeacon leaf pin counter? names)) : ∀ {α : Type}, Routine σ α → Prop) ∧
      AllowsTurns (StakeAct (.ofBeacon leaf pin counter? names)) ∧
      AllowsOthers (.ofBeacon leaf pin counter? names) (StakeAct (.ofBeacon leaf pin counter? names))) ∧
    StaysGrounded app ∧
    (∀ hub : Hub, hub.WellFormed → hub.led? leaf = some ⟨pin, none, false⟩ → (hub.pin pin).high = false →
      (∀ other state, other ≠ leaf → hub.led? other = some state → state.pin ≠ pin) → hub.Beacon leaf pin none []) ∧
    (∀ (hub : Hub) (lit : Bool), hub.Grounded → hub.Beacon leaf pin none [] → hub.led? leaf = some ⟨pin, none, lit⟩ →
      ((ledPhase .init leaf).run.run hub).2.Beacon leaf pin (some hub.nextLed.blinks)
        (countNames (hub.leaf leaf).name) ∧
      ((ledPhase .init leaf).run.run hub).2.value hub.nextLed.blinks = .int64 0) ∧
    (∀ limit rest hub own, routine.run app limit world = (rest, ⟨hub, own⟩) →
      (∃ made, hub.led? leaf = some ⟨pin, made, (hub.pin pin).high⟩) ∧
      (rest.Takes (hub.Attends leaf) → hub.Rests pin counter? (routine.run app (limit + 1) world).2.hub ∨
        ∃ level, hub.Asks pin counter? level (routine.run app (limit + 1) world).2.hub) ∧
      (¬rest.Takes (hub.Attends leaf) → hub.Idles pin counter? (routine.run app (limit + 1) world).2.hub)) ∧
    (∀ limit,
      (∃ last level, last < limit ∧ PinTakes app routine world leaf pin last level ∧
        (∀ later other, last < later → later < limit → ¬PinTakes app routine world leaf pin later other) ∧
        ((routine.run app limit world).2.hub.pin pin).high = level) ∨
      ((∀ earlier other, earlier < limit → ¬PinTakes app routine world leaf pin earlier other) ∧
        ((routine.run app limit world).2.hub.pin pin).high = (world.hub.pin pin).high)) ∧
    ∀ counter ∈ counter?, ∀ n limit, world.hub.value counter = .int64 n →
      (routine.run app limit world).2.hub.value counter =
        .int64 (n + Int64.ofNat (rises app routine world pin limit)) := by
  refine ⟨⟨(Stake.ofBeacon leaf pin counter? names).lives_stakeAct, Stake.allowsTurns_stakeAct _,
    Stake.allowsOthers_stakeAct _⟩, staysGrounded app, fun hub sound bare dark apart => beacon_fresh sound bare dark apart,
    fun hub lit grounded beacon bare => grounded.beacon beacon bare, ?_, last_taken application uses start,
    fun counter own n limit held => counted_run application uses start own held limit⟩
  intro limit rest hub own ran
  obtain ⟨made, holds, _⟩ := (beacon_run application uses start limit).holds
  obtain ⟨attended, aside⟩ := asks_next application uses start limit
  rw [ran] at holds attended aside
  exact ⟨⟨made, holds⟩, attended, aside⟩

/-- A hub with one LED, whose pin refuses the second request. -/
def blinkHub : Hub :=
  { fresh .standard with
    leaves := ⟨#[Leaf.fresh ⟨"lamp", none, .led⟩ "led" (some (.ledOn "pin"))]⟩
    pins := [("pin", ⟨[false, true], false⟩)] }

/-- The LED has been inited. -/
def blinkWorld : World Unit where
  hub := ((ledPhase .init 0).run.run blinkHub).2
  own := ()

/-- Puts the LED on, lets it look twice, and then darkens it and lets it look again. -/
def flicker : Routine Unit Unit := do
  discard (store blinkHub.nextLed.on (.bool true)).run
  discard (ledPhase .start 0).run
  discard (ledPhase .start 0).run
  discard (ledPhase .stop 0).run
  discard (ledPhase .start 0).run

theorem led_counts_rises_flickering :
    (blinkWorld.hub.pin "pin").faults = [true] ∧ rises .silent flicker blinkWorld "pin" 5 = 2 ∧
      (flicker.run .silent 5 blinkWorld).2.hub.value blinkHub.nextLed.blinks = .int64 (0 + Int64.ofNat 2) := by
  have acts {act : Act (Except Fault Unit)}
      (fine : StakeAct (.ofBeacon 0 "pin" (some blinkHub.nextLed.blinks) (countNames "led")) act) :
      (discard (liftM act) : Routine Unit Unit).Uses
        (StakeAct (.ofBeacon 0 "pin" (some blinkHub.nextLed.blinks) (countNames "led"))) :=
    uses_bind (uses_act fine) fun _ => uses_pure _
  have others := Stake.allowsOthers_stakeAct (.ofBeacon 0 "pin" (some blinkHub.nextLed.blinks) (countNames "led"))
  have uses : flicker.Uses (StakeAct (.ofBeacon 0 "pin" (some blinkHub.nextLed.blinks) (countNames "led"))) := by
    refine uses_bind (acts (others.store _ (by decide) _)) fun _ => ?_
    refine uses_bind (acts (.own (.led .start))) fun _ => uses_bind (acts (.own (.led .start))) fun _ => ?_
    exact uses_bind (acts (.own (.led .stop))) fun _ => acts (.own (.led .start))
  have grounded : blinkHub.Grounded := (reachable_single .standard _ [] rfl).rooted.grounded
  have elsewhere (other : LeafId) (state : LedState) (apart : other ≠ 0) (led : blinkHub.led? other = some state) :
      state.pin ≠ "pin" := by
    have nobody : blinkHub.leaf other = default := Pool.get_unknown (Nat.pos_of_ne_zero apart)
    rw [led?, nobody] at led
    cases led
  have beacon : blinkHub.Beacon 0 "pin" none [] := beacon_fresh grounded.sound rfl rfl elsewhere
  have inited : blinkWorld.hub.Beacon 0 "pin" (some blinkHub.nextLed.blinks) (countNames "led") ∧
      blinkWorld.hub.value blinkHub.nextLed.blinks = .int64 0 := by
    simp only [blinkWorld]
    exact grounded.beacon beacon rfl
  obtain ⟨start, none⟩ := inited
  obtain ⟨_, _, _, _, _, _, counts⟩ := led_counts_rises Application.uses_silent uses start
  have twice : rises .silent flicker blinkWorld "pin" 5 = 2 := by decide +kernel
  have counted := counts _ rfl 0 5 none
  rw [twice] at counted
  exact ⟨by decide +kernel, twice, counted⟩

end Routine

end LeafHub
