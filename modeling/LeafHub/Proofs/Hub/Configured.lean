import LeafHub.Proofs.Hub.AllOrNothing
import LeafHub.Proofs.Hub.KeyScan
import LeafHub.Proofs.Hub.Outfit

namespace LeafHub.Hub

open Passage

variable {hub after : Hub} {leaf : LeafId} {id : CellId}

/-- The address that a keypad is set to, which is the default before its first init. -/
def addrSetting (hub : Hub) (state : KeypadState) : UInt16 :=
  (state.cells.bind fun cells => hub.uint16? cells.addr).getD 0x20

/-- Whether an init of the leaf would configure its device now: the pin of an LED takes the dark, and the expander of a
keypad takes its configuration, at an address of seven bits. -/
def configures (hub : Hub) (leaf : LeafId) : Bool :=
  match (hub.leaf leaf).leafClass.callbacks with
  | .led => (hub.led? leaf).any fun state => ((hub.pin state.pin).drive false).1
  | .keypad => (hub.keypad? leaf).any fun state =>
      decide (hub.addrSetting state ≤ 0x7F) && (hub.bus state.bus).write.1.isOk
  | _ => false

theorem Shows.of_same {value : Value} (shows' : hub.Shows id value) (cells : after.cells = hub.cells)
    (flags : after.flags = hub.flags) : after.Shows id value := by
  have cell : after.cell id = hub.cell id := by rw [Hub.cell, Hub.cell, cells]
  exact
    { known := cells ▸ shows'.known
      kind := cell ▸ shows'.kind
      value := by
        rw [Hub.value, cell, flags]
        exact shows'.value }

theorem Shows.run_store_bool {was : Bool} (shows' : hub.Shows id (.bool was)) (flag : Bool) :
    ∃ after, (store id (.bool flag)).run.run hub = (.ok (), after) ∧ after.Shows id (.bool flag) :=
  shows'.run_store rfl nofun

/-- What a cell shows it goes on showing. -/
def KeepsShown (id : CellId) (hub after : Hub) : Prop :=
  ∀ value, hub.Shows id value → after.Shows id value

theorem cataloguing_keepsShown (id : CellId) : Cataloguing (KeepsShown id) where
  refl := fun _ _ shows' => shows'
  trans := fun first second value shows' => second value (first value shows')
  logged := fun _ _ _ _ shows' => shows'.of_same rfl rfl
  catalogued := fun _ _ _ _ _ _ _ shows' => shows'.of_same rfl rfl

/-- A cell that has just been made shows what its row says. -/
theorem GrowsBy.shows {outfit : Outfit} {growth : Growth} (grows : hub.GrowsBy leaf outfit growth)
    {catalogue : Catalogue} {row : CellId × Definition} (member : row ∈ outfit.rows catalogue)
    (plain : row.2.start.kind ≠ .event) : (hub.grow growth).Shows row.1 row.2.start := by
  obtain ⟨flags, subscriber, made⟩ := grows.made catalogue row member
  have cell : (hub.grow growth).cell row.1 = newborn (hub.leaf leaf).name row.2 flags subscriber := made
  exact
    { known := (grows.new catalogue row member).2
      kind := by
        rw [cell]
        rfl
      value := by
        rw [Hub.value, cell]
        exact Payload.value_ofValue flags fun bits event => absurd (congrArg Value.kind event) plain }

section Led

variable {pin : String} {cells : LedCells} {lit was : Bool}

/-- An LED says that it has been configured if its pin takes the dark. -/
theorem configureLed_shows (holds : hub.led? leaf = some ⟨pin, some cells, lit⟩)
    (shows' : hub.Shows cells.ok (.bool was)) : ∃ after,
      (configureLed leaf).run.run hub = (if ((hub.pin pin).drive false).1 then .ok () else .error .io, after) ∧
        after.Shows cells.ok (.bool (was || ((hub.pin pin).drive false).1)) := by
  have ran := run_driveLed holds false
  unfold configureLed
  rw [Attempt.run_bind, ran]
  by_cases taken : ((hub.pin pin).drive false).1 = true
  · rw [if_pos taken, if_pos taken, taken, Bool.or_true]
    dsimp only
    have known : leaf < (hub.asked pin false).leaves.size := known_of_context (led?_eq_some.mp holds)
    generalize set : ((setContext leaf (.led ⟨pin, some cells, false⟩)).run (hub.asked pin false)).2 = dark
    have shown : dark.Shows cells.ok (.bool was) := set ▸ shows'.of_same rfl rfl
    have still : dark.led? leaf = some ⟨pin, some cells, false⟩ := by
      rw [← set, led?_eq_some, leaf_setContext known]
    obtain ⟨marked, stored, shown⟩ := shown.run_store_bool true
    rw [Attempt.run_bind_of (run_ledCellsOf still), Attempt.run_bind_of stored,
      Attempt.run_bind_of (Attempt.run_get marked)]
    exact ⟨_, rfl, shown.of_same rfl rfl⟩
  · rw [if_neg taken, if_neg taken, Bool.eq_false_iff.mpr taken, Bool.or_false]
    exact ⟨_, rfl, shows'.of_same rfl rfl⟩

theorem readyLed_shows (holds : hub.led? leaf = some ⟨pin, some cells, lit⟩) (shows' : hub.Shows cells.ok (.bool was)) :
    ((readyLed leaf).run.run hub).2.Shows cells.ok (.bool (was || ((hub.pin pin).drive false).1)) := by
  obtain ⟨configured, ran, shown⟩ := configureLed_shows holds shows'
  unfold readyLed
  rw [Attempt.run_bind_of (Attempt.run_get hub), Attempt.run_bind, Attempt.run_tryCatch, ran]
  by_cases taken : ((hub.pin pin).drive false).1 = true
  · rw [if_pos taken]
    exact (cataloguing_keepsShown cells.ok).registerCommand _ _ _ shown
  · rw [if_neg taken]
    exact shown.of_same rfl rfl

end Led

section Keypad

variable {peer : String} {cells : KeypadCells} {scanning was : Bool}

theorem run_writeKeypad (hub : Hub) (bus : String) (address : UInt8) : ∃ after, (writeKeypad bus address).run.run hub =
    (if (hub.bus bus).write.1.isOk then .ok () else .error .deviceUnavailable, after) := by
  unfold writeKeypad
  rw [Attempt.run_bind_of (Attempt.run_get hub)]
  cases (hub.bus bus).write with
  | mk answer after => cases answer <;> exact ⟨_, rfl⟩

/-- A keypad says that it has been configured if its expander takes the configuration. -/
theorem configureKeypad_shows (name bus : String) (holds : hub.keypad? leaf = some ⟨peer, some cells, scanning⟩)
    (shows' : hub.Shows cells.ok (.bool was)) : ((configureKeypad leaf name bus).run.run hub).2.Shows cells.ok
      (.bool (was ||
        (decide (hub.addrSetting ⟨peer, some cells, scanning⟩ ≤ 0x7F) && (hub.bus bus).write.1.isOk))) := by
  have listing := cataloguing_keepsShown cells.ok
  have setting : hub.addrSetting ⟨peer, some cells, scanning⟩ = (hub.uint16? cells.addr).getD 0x20 := rfl
  unfold configureKeypad
  rw [Attempt.run_bind_of (run_keypadCellsOf holds), setting]
  obtain ⟨address, looked, same, small, _⟩ | ⟨⟨line, looked⟩, large, _⟩ := run_keypadAddress hub cells
  · have seven : (hub.uint16? cells.addr).getD 0x20 ≤ 0x7F := by
      rw [UInt16.le_iff_toNat_le, ← same]
      exact UInt8.le_iff_toNat_le.mp small
    obtain ⟨written, wrote⟩ := run_writeKeypad hub bus address
    have writing : Attempt.Keeps _ (writeKeypad bus address) := keeps_writeKeypad listing.toLogging
      (fun _ _ _ _ shows' => shows'.of_same rfl rfl) fun _ _ _ shows' => shows'.of_same rfl rfl
    have kept := writing hub (.bool was) shows'
    rw [wrote] at kept
    rw [Attempt.run_bind_of looked, Attempt.run_bind, wrote, decide_eq_true seven, Bool.true_and]
    by_cases taken : (hub.bus bus).write.1.isOk = true
    · rw [if_pos taken, taken, Bool.or_true]
      obtain ⟨marked, stored, shown⟩ := kept.run_store_bool true
      dsimp only
      rw [Attempt.run_bind_of stored]
      exact listing.tryBind (tryLift (listing.logged _ _)) (fun _ => listing.registerCommand _) marked _ shown
    · rw [if_neg taken, Bool.eq_false_iff.mpr taken, Bool.or_false]
      exact kept
  · have eight : ¬(hub.uint16? cells.addr).getD 0x20 ≤ 0x7F := by
      rw [UInt16.le_iff_toNat_le]
      exact Nat.not_le.mpr large
    rw [Attempt.run_bind, looked, decide_eq_false eight, Bool.false_and, Bool.or_false]
    exact shows'.of_same rfl rfl

end Keypad

end LeafHub.Hub
