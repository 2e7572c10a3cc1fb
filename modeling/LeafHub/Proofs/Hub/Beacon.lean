import LeafHub.Proofs.Hub.KeyActs

namespace LeafHub

open Hub Passage

/-- The stake of an LED in its pin, and in the cell that counts for it once there is one. -/
def Stake.ofBeacon (leaf : LeafId) (pin : String) (counter? : Option CellId) (names : List String) : Stake where
  leaf
  item? := none
  cells := counter?.toList
  names
  pins := [pin]

/-- A request to a pin, and whether the pin took it. -/
def Happening.pinRequest? (pin : String) : Happening → Option (Bool × Bool)
  | .pin name level accepted => if name = pin then some (level, accepted) else none
  | _ => none

namespace Hub

/-- The requests that were ever made to a pin. -/
def pinRequests (hub : Hub) (pin : String) : List (Bool × Bool) :=
  hub.journal.toList.filterMap (Happening.pinRequest? pin)

/-- The cells of an LED that has been inited. The one that counts is no other cell of the LED. -/
def CountsIn (made : Option LedCells) (counter : CellId) : Prop :=
  ∃ cells, made = some cells ∧ cells.blinks = counter ∧ counter ∉ [cells.ok, cells.on, cells.duty]

/-- An LED knows the level of its pin, which is low until there are cells, and the pin and the counter are its own. -/
structure Beacon (hub : Hub) (leaf : LeafId) (pin : String) (counter? : Option CellId) (names : List String) :
    Prop where
  holds : ∃ made, hub.led? leaf = some ⟨pin, made, (hub.pin pin).high⟩ ∧
    (made = none → (hub.pin pin).high = false) ∧ ∀ counter ∈ counter?, CountsIn made counter
  sole : (Stake.ofBeacon leaf pin counter? names).Sole hub
  counts : ∀ counter ∈ counter?, (hub.cell counter).kind = .int64

/-- Pin and counter are as they were. -/
structure Idles (hub : Hub) (pin : String) (counter? : Option CellId) (after : Hub) : Prop where
  same : after.pin pin = hub.pin pin
  count : ∀ counter ∈ counter?, after.value counter = hub.value counter

/-- The pin was not asked for anything either. -/
structure Rests (hub : Hub) (pin : String) (counter? : Option CellId) (after : Hub) : Prop
    extends hub.Idles pin counter? after where
  requests : after.pinRequests pin = hub.pinRequests pin

/-- The pin was asked once, and took the request or was left as it was. -/
structure Drove (hub : Hub) (pin : String) (level : Bool) (after : Hub) : Prop where
  driven : after.pin pin = ((hub.pin pin).drive level).2
  requests : after.pinRequests pin = hub.pinRequests pin ++ [(level, ((hub.pin pin).drive level).1)]

/-- The pin was asked once, for light only if it was dark, and a rise that it took was counted. -/
structure Asks (hub : Hub) (pin : String) (counter? : Option CellId) (level : Bool) (after : Hub) : Prop
    extends hub.Drove pin level after where
  timely : level = true → (hub.pin pin).high = false
  count : ∀ counter ∈ counter?, ∀ n, hub.value counter = .int64 n →
    after.value counter = .int64 (if level && ((hub.pin pin).drive level).1 then n + 1 else n)

/-- The pin was asked once or not at all, and the LED knows what came of it. -/
structure Tracks (hub : Hub) (leaf : LeafId) (pin : String) (counter? : Option CellId) (names : List String)
    (after : Hub) : Prop where
  asked : hub.Rests pin counter? after ∨ ∃ level, hub.Asks pin counter? level after
  later : after.Beacon leaf pin counter? names

/-- What is done leaves pin and counter alone and asks nothing of the pin. -/
def KeepsResting (leaf : LeafId) (pin : String) (counter? : Option CellId) (names : List String) (hub after : Hub) :
    Prop :=
  hub.Beacon leaf pin counter? names → hub.Rests pin counter? after ∧ after.Beacon leaf pin counter? names

/-- No request to a pin. -/
def NoRequest (happening : Happening) : Prop :=
  ∀ name level accepted, happening ≠ .pin name level accepted

variable {hub after : Hub} {leaf : LeafId} {pin : String} {counter? : Option CellId} {names : List String}

theorem noRequest_log (level : Level) (line : String) : NoRequest (.log level line) := fun _ _ _ => nofun

theorem noRequest_stored (cell : CellId) (name : String) (value : Value) : NoRequest (.stored cell name value) :=
  fun _ _ _ => nofun

theorem noRequest_counted (cell : CellId) (name : String) (total : Int64) : NoRequest (.counted cell name total) :=
  fun _ _ _ => nofun

theorem noRequest_began (item : ItemId) (label : String) : NoRequest (.began item label) := fun _ _ _ => nofun

theorem pinRequests_of_adds (adds : Adds NoRequest hub after) (pin : String) :
    after.pinRequests pin = hub.pinRequests pin := by
  obtain ⟨more, journal, fine⟩ := adds
  have none : more.filterMap (Happening.pinRequest? pin) = [] := by
    refine List.filterMap_eq_nil_iff.mpr fun happening member => ?_
    cases happening with
    | pin name level accepted => exact absurd rfl (fine _ member name level accepted)
    | _ => rfl
  rw [pinRequests, journal, List.filterMap_append, none, List.append_nil]
  rfl

section Rests

theorem passage_rests (pin : String) (counter? : Option CellId) :
    Passage fun hub after => hub.Rests pin counter? after where
  refl := fun _ => ⟨⟨rfl, fun _ _ => rfl⟩, rfl⟩
  trans := fun one two =>
    { same := two.same.trans one.same
      count := fun counter own => (two.count counter own).trans (one.count counter own)
      requests := two.requests.trans one.requests }

theorem passage_keepsResting (leaf : LeafId) (pin : String) (counter? : Option CellId) (names : List String) :
    Passage (KeepsResting leaf pin counter? names) :=
  (passage_rests pin counter?).under _

/-- A request after or before a rest. -/
theorem Asks.rest {between : Hub} {level : Bool} (asks : hub.Asks pin counter? level between)
    (rests : between.Rests pin counter? after) : hub.Asks pin counter? level after where
  driven := rests.same.trans asks.driven
  requests := rests.requests.trans asks.requests
  timely := asks.timely
  count := fun counter own n held => (rests.count counter own).trans (asks.count counter own n held)

theorem Rests.asks {between : Hub} {level : Bool} (rests : hub.Rests pin counter? between)
    (asks : between.Asks pin counter? level after) : hub.Asks pin counter? level after where
  driven := by rw [asks.driven, rests.same]
  requests := by rw [asks.requests, rests.requests, rests.same]
  timely := fun high => rests.same ▸ asks.timely high
  count := fun counter own n held => by
    rw [asks.count counter own n ((rests.count counter own).trans held), rests.same]

theorem Asks.kept {between : Hub} {level : Bool} (asks : hub.Asks pin counter? level between)
    (beacon : between.Beacon leaf pin counter? names) (kept : KeepsResting leaf pin counter? names between after) :
    hub.Asks pin counter? level after ∧ after.Beacon leaf pin counter? names :=
  ⟨asks.rest (kept beacon).1, (kept beacon).2⟩

theorem Rests.tracks {between : Hub} (rests : hub.Rests pin counter? between)
    (tracks : between.Tracks leaf pin counter? names after) : hub.Tracks leaf pin counter? names after := by
  obtain ⟨more | ⟨level, asks⟩, later⟩ := tracks
  · exact ⟨.inl ((passage_rests pin counter?).trans rests more), later⟩
  · exact ⟨.inr ⟨level, rests.asks asks⟩, later⟩

theorem Tracks.rest {between : Hub} (tracks : hub.Tracks leaf pin counter? names between)
    (kept : KeepsResting leaf pin counter? names between after) : hub.Tracks leaf pin counter? names after := by
  obtain ⟨rests | ⟨level, asks⟩, beacon⟩ := tracks
  · obtain ⟨more, later⟩ := kept beacon
    exact ⟨.inl ((passage_rests pin counter?).trans rests more), later⟩
  · obtain ⟨more, later⟩ := asks.kept beacon kept
    exact ⟨.inr ⟨level, more⟩, later⟩

theorem Beacon.rested (beacon : hub.Beacon leaf pin counter? names)
    (kept : KeepsResting leaf pin counter? names hub after) : hub.Tracks leaf pin counter? names after :=
  ⟨.inl (kept beacon).1, (kept beacon).2⟩

end Rests

namespace Beacon

variable (beacon : hub.Beacon leaf pin counter? names)

include beacon

/-- What respects the stake leaves pin and counter alone. -/
theorem respected (respects : (Stake.ofBeacon leaf pin counter? names).Respects hub after) :
    hub.Idles pin counter? after ∧ after.Beacon leaf pin counter? names := by
  obtain ⟨spared, sole⟩ := respects beacon.sole
  have same : after.pin pin = hub.pin pin := spared.pins pin List.mem_cons_self
  refine ⟨⟨same, fun counter own => (spared.cells counter (Option.mem_toList.mpr own)).2⟩, ?_⟩
  exact
    { holds := by
        have context : (after.leaf leaf).context = (hub.leaf leaf).context := spared.context
        rw [led?, context, same]
        exact beacon.holds
      sole := sole
      counts := fun counter own => by
        rw [(spared.cells counter (Option.mem_toList.mpr own)).1]
        exact beacon.counts counter own }

end Beacon

theorem keepsResting_of_respects (respects : (Stake.ofBeacon leaf pin counter? names).Respects hub after)
    (adds : Adds NoRequest hub after) : KeepsResting leaf pin counter? names hub after := by
  intro beacon
  obtain ⟨idles, later⟩ := beacon.respected respects
  exact ⟨⟨idles, pinRequests_of_adds adds pin⟩, later⟩

section Keeping

variable (leaf : LeafId) (pin : String) (counter? : Option CellId) (names : List String)

theorem housekeeping_keepsResting : Housekeeping (KeepsResting leaf pin counter? names) where
  toPassage := passage_keepsResting leaf pin counter? names
  logged := fun level line hub =>
    keepsResting_of_respects (Stake.respects_log level line hub) (adds_log noRequest_log level line hub)
  shelved := fun name medium hub =>
    keepsResting_of_respects ((Stake.housekeeping _).shelved name medium hub) (adds_of_same rfl)
  entered := fun hub id value listed => keepsResting_of_respects ((Stake.housekeeping _).entered hub id value listed)
    (adds_store noRequest_log (fun name => noRequest_stored id name value) hub)

theorem keepsResting_registerCommand (command : Command) :
    Attempt.Keeps (KeepsResting leaf pin counter? names) (registerCommand command) :=
  fun hub => keepsResting_of_respects ((Stake.cataloguing _).registerCommand command hub)
    ((cataloguing_adds noRequest_log).registerCommand command hub)

/-- The LED writes its other cells itself. -/
theorem adjustsWithin_keepsResting : AdjustsWithin (KeepsResting leaf pin counter? names) leaf := by
  intro hub cell value adjusts beacon
  obtain ⟨made, holds, _, counts⟩ := beacon.holds
  have apart : cell ∉ (Stake.ofBeacon leaf pin counter? names).cells := by
    intro own
    obtain ⟨cells, rfl, _, others⟩ := counts cell (Option.mem_toList.mp own)
    cases adjusts with
    | led led member =>
      rw [led] at holds
      cases holds
      exact others member
    | keypad keypad member => exact absurd (led?_of_keypad? keypad) (by rw [holds]; exact nofun)
  exact keepsResting_of_respects (Stake.respects_store apart value)
    (adds_store noRequest_log (fun name => noRequest_stored cell name value) hub) beacon

end Keeping

end Hub

end LeafHub
