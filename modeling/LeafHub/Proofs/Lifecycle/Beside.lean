import LeafHub.Proofs.Hub.StakeAct
import LeafHub.Proofs.Lifecycle.Flags
import LeafHub.Proofs.Routine.Watch

namespace LeafHub

open Hub Passage

variable {σ : Type} {stake : Stake} {other : LeafId}

/-- The stake is respected, and the leaf runs if it did so before. -/
def Stake.Beside (stake : Stake) (hub after : Hub) : Prop :=
  stake.Respects hub after ∧ (after.leaf stake.leaf).running = (hub.leaf stake.leaf).running

theorem AllowsOthers.both {first second third : ∀ {β : Type}, Act β → Prop} (one : AllowsOthers stake first)
    (two : AllowsOthers stake second) (both : ∀ {β : Type} {act : Act β}, first act → second act → third act) :
    AllowsOthers stake third where
  submit := fun item apart => both (one.submit item apart) (two.submit item apart)
  schedule := fun item apart delay => both (one.schedule item apart delay) (two.schedule item apart delay)
  reschedule := fun item apart delay => both (one.reschedule item apart delay) (two.reschedule item apart delay)
  cancel := fun item apart => both (one.cancel item apart) (two.cancel item apart)
  make := both one.make two.make
  makeItem := fun item apart => both (one.makeItem item apart) (two.makeItem item apart)
  shutdown := fun queue apart => both (one.shutdown queue apart) (two.shutdown queue apart)
  retain := fun queue apart => both (one.retain queue apart) (two.retain queue apart)
  release := fun queue apart => both (one.release queue apart) (two.release queue apart)
  bus := fun name bus => both (one.bus name bus) (two.bus name bus)
  store := fun id apart value => both (one.store id apart value) (two.store id apart value)
  storeRaw := fun id apart raw => both (one.storeRaw id apart raw) (two.storeRaw id apart raw)
  storeText := fun id apart text => both (one.storeText id apart text) (two.storeText id apart text)
  count := fun id apart delta => both (one.count id apart delta) (two.count id apart delta)
  post := fun id apart bits => both (one.post id apart bits) (two.post id apart bits)
  writeCharacteristic := fun id apart data offset limit =>
    both (one.writeCharacteristic id apart data offset limit) (two.writeCharacteristic id apart data offset limit)
  handleSet := fun key raw => both (one.handleSet key raw) (two.handleSet key raw)
  loadSettings := fun store => both (one.loadSettings store) (two.loadSettings store)

namespace Hub

theorem allowsOthers_sameFlags (stake : Stake) : AllowsOthers stake (Act.Keeps SameFlags) where
  submit := fun item _ hub => sameFlags_of_leaves (requeued_submit item hub).leaves
  schedule := fun item _ delay hub => sameFlags_of_leaves (requeued_schedule item delay hub).leaves
  reschedule := fun item _ delay hub => sameFlags_of_leaves (requeued_reschedule item delay hub).leaves
  cancel := fun item _ hub => sameFlags_of_leaves (requeued_cancel item hub).leaves
  make := fun _ => sameFlags_of_leaves rfl
  makeItem := fun _ _ _ => sameFlags_of_leaves rfl
  shutdown := fun _ _ _ => sameFlags_of_leaves rfl
  retain := fun _ _ _ => sameFlags_of_leaves rfl
  release := fun _ _ _ => sameFlags_of_leaves rfl
  bus := fun _ _ _ => sameFlags_of_leaves rfl
  store := fun id _ value => frame_sameFlags.store id value
  storeRaw := fun id _ raw => frame_sameFlags.storeRaw id raw
  storeText := fun id _ text => frame_sameFlags.storeText id text
  count := fun id _ delta => frame_sameFlags.count id delta
  post := fun id _ bits => frame_sameFlags.post id bits
  writeCharacteristic := fun id _ data offset limit => frame_sameFlags.writeCharacteristic id data offset limit
  handleSet := frame_sameFlags.handleSet
  loadSettings := frame_sameFlags.loadSettings

end Hub

namespace Stake

theorem passage_beside (stake : Stake) : Passage stake.Beside where
  refl := fun hub => ⟨(passage_respects stake).refl hub, rfl⟩
  trans := fun first second =>
    ⟨(passage_respects stake).trans first.1 second.1, second.2.trans first.2⟩

theorem beside_of_sameFlags {β : Type} {act : Act β} (respects : act.Keeps stake.Respects) (flags : act.Keeps SameFlags) :
    act.Keeps stake.Beside :=
  fun hub => ⟨respects hub, (flags hub stake.leaf).2⟩

theorem cataloguing_beside (stake : Stake) : Cataloguing stake.Beside where
  toPassage := passage_beside stake
  logged := fun level line => beside_of_sameFlags (respects_log level line) (frame_sameFlags.log level line)
  catalogued := fun hub classes leafList commands identity initialised =>
    ⟨(cataloguing stake).catalogued hub classes leafList commands identity initialised, rfl⟩

theorem beside_waitUntil (time : Nat) : Act.Keeps stake.Beside (waitUntil time) :=
  beside_of_sameFlags (respects_waitUntil time) (frame_sameFlags.waitUntil time)

theorem beside_retain (id : LeafId) : Act.Keeps stake.Beside (retain id) :=
  beside_of_sameFlags (respects_retain id) (frame_sameFlags.retained id)

theorem beside_release (id : LeafId) : Act.Keeps stake.Beside (release id) :=
  beside_of_sameFlags (respects_release id) (frame_sameFlags.released id)

theorem beside_setValue (name : String) (words : List String) (apart : name ∉ stake.names) :
    Act.Keeps stake.Beside (Shell.setValue name words) :=
  beside_of_sameFlags (respects_setValue name words apart) (Routine.sameFlags_setValue name words)

theorem allowsOthers_beside (stake : Stake) : AllowsOthers stake (Act.Keeps stake.Beside) :=
  (allowsOthers_respects stake).both (allowsOthers_sameFlags stake) beside_of_sameFlags

section Others

variable (apart : other ≠ stake.leaf)

include apart

theorem beside_setLeaf {hub after : Hub} {leaf : Leaf} (respects : stake.Respects hub after)
    (leaves : after.leaves = hub.leaves.set other leaf) : stake.Beside hub after := by
  have same : after.leaf stake.leaf = hub.leaf stake.leaf := by
    rw [Hub.leaf, leaves]
    exact Pool.get_set_other apart.symm _
  exact ⟨respects, congrArg Leaf.running same⟩

theorem beside_beginInit : Act.Keeps stake.Beside (beginInit other) :=
  fun hub => beside_setLeaf apart (respects_beginInit other hub) (leaves_beginInit other hub)

theorem beside_endStart (outcome : Except Fault Unit) : Act.Keeps stake.Beside (endStart other outcome) := by
  intro hub
  have respects : stake.Respects hub ((endStart other outcome).run hub).2 := respects_endStart other outcome hub
  cases outcome with
  | ok => exact beside_setLeaf apart respects rfl
  | error fault => exact ⟨respects, rfl⟩

theorem beside_endStop (outcome : Except Fault Unit) : Act.Keeps stake.Beside (endStop other outcome) := by
  intro hub
  have respects : stake.Respects hub ((endStop other outcome).run hub).2 := respects_endStop other outcome hub
  cases outcome with
  | ok => exact beside_setLeaf apart respects rfl
  | error fault => exact ⟨respects, rfl⟩

end Others

/-- The end of an init is about readiness only. -/
theorem beside_endInit (id : LeafId) (outcome : Except Fault Unit) : Act.Keeps stake.Beside (endInit id outcome) := by
  refine fun hub => ⟨respects_endInit id outcome hub, ?_⟩
  cases outcome with
  | ok =>
    have running : (Hub.leaf { hub with leaves := hub.leaves.set id { hub.leaf id with ready := true } } stake.leaf).running =
        (hub.leaf stake.leaf).running := by
      rw [leaf_set]
      split
      · rename_i here
        rw [here.1]
      · rfl
    exact running
  | error fault => rfl

end Stake

namespace Routine

open Stake

theorem uses_holding_beside {α : Type} {ids : List LeafId} {body : Routine σ α} (uses : body.Uses (Act.Keeps stake.Beside)) :
    (holding ids body).Uses (Act.Keeps stake.Beside) :=
  uses_holding ((passage_beside stake).each beside_retain ids) ((passage_beside stake).each beside_release ids) uses

section Others

variable (apart : other ≠ stake.leaf)

include apart

theorem uses_callClass_beside (phase : Phase) :
    (callClass phase other : Routine σ (Except Fault Unit)).Uses (Act.Keeps stake.Beside) := by
  unfold callClass
  refine uses_bind (uses_act (passage_beside stake).get) fun hub => ?_
  split
  · exact uses_pure _
  · exact uses_act (beside_of_sameFlags (respects_ledPhase apart phase) (frame_sameFlags.ledPhase phase other))
  · exact uses_act (beside_of_sameFlags (respects_keypadPhase apart phase) (frame_sameFlags.keypadPhase phase other))
  · exact uses_act (beside_of_sameFlags
      ((regime stake).settingsPhase phase other)
      (frame_sameFlags.settingsPhase phase other))
  · exact uses_ofCall _

/-- No operation on another leaf is about the stake. -/
theorem uses_initLeaf_beside : (initLeaf other : Routine σ (Except Fault Unit)).Uses (Act.Keeps stake.Beside) := by
  refine uses_holding_beside ?_
  refine uses_bind (uses_act (beside_beginInit apart)) fun _ => ?_
  refine uses_bind (uses_callClass_beside apart .init) fun outcome => ?_
  exact uses_bind (uses_act (beside_endInit other outcome)) fun _ => uses_pure _

theorem uses_startLeaf_beside : (startLeaf other : Routine σ (Except Fault Unit)).Uses (Act.Keeps stake.Beside) := by
  refine uses_holding_beside ?_
  refine uses_bind (uses_act ((cataloguing_beside stake).registering.beginStart other)) fun ready => ?_
  split
  · refine uses_bind (uses_callClass_beside apart .start) fun outcome => ?_
    exact uses_bind (uses_act (beside_endStart apart outcome)) fun _ => uses_pure _
  · exact uses_pure _

theorem uses_stopLeaf_beside : (stopLeaf other : Routine σ (Except Fault Unit)).Uses (Act.Keeps stake.Beside) := by
  refine uses_holding_beside ?_
  refine uses_bind (uses_callClass_beside apart .stop) fun outcome => ?_
  exact uses_bind (uses_act (beside_endStop apart outcome)) fun _ => uses_pure _

end Others

end Routine

end LeafHub
