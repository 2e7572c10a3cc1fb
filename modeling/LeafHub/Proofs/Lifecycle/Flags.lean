import LeafHub.Proofs.Hub.LeafFrame
import LeafHub.Proofs.Hub.Requeued
import LeafHub.Proofs.Lifecycle.Operations

namespace LeafHub

namespace Hub

/-- The flags of all leaves are the same. -/
def SameFlags (hub after : Hub) : Prop :=
  ∀ id, (after.leaf id).ready = (hub.leaf id).ready ∧ (after.leaf id).running = (hub.leaf id).running

theorem passage_sameFlags : Passage SameFlags where
  refl := fun _ _ => ⟨rfl, rfl⟩
  trans := fun first second id => ⟨(second id).1.trans (first id).1, (second id).2.trans (first id).2⟩

theorem sameFlags_of_leaves {hub after : Hub} (same : after.leaves = hub.leaves) : hub.SameFlags after := by
  intro id
  simp only [Hub.leaf, same, and_self]

theorem leaf_set (hub : Hub) (id other : LeafId) (leaf : Leaf) :
    Hub.leaf { hub with leaves := hub.leaves.set id leaf } other =
      if other = id ∧ id < hub.leaves.size then leaf else hub.leaf other :=
  Pool.get_set _ _ _ _

theorem sameFlags_set {hub : Hub} {id : LeafId} {leaf : Leaf} (ready : leaf.ready = (hub.leaf id).ready)
    (running : leaf.running = (hub.leaf id).running) :
    hub.SameFlags { hub with leaves := hub.leaves.set id leaf } := by
  intro other
  rw [leaf_set]
  split
  · rename_i here
    rw [here.1]
    exact ⟨ready, running⟩
  · exact ⟨rfl, rfl⟩

/-- The elementary changes put a leaf in the place of one only with the same flags and of the same class. -/
theorem frame_of_leaves {R : Hub → Hub → Prop} (passage : Passage R)
    (same : ∀ {hub after : Hub}, after.leaves = hub.leaves → R hub after)
    (set : ∀ {hub : Hub} {id : LeafId} {leaf : Leaf}, leaf.ready = (hub.leaf id).ready →
      leaf.running = (hub.leaf id).running → leaf.leafClass = (hub.leaf id).leafClass →
        R hub { hub with leaves := hub.leaves.set id leaf }) : Frame R where
  toPassage := passage
  noted := fun _ _ _ => same rfl
  told := fun id happening _ hub => same (requeued_told id happening hub).leaves
  filled := fun _ _ _ _ _ => same rfl
  counted := fun _ _ _ _ _ => same rfl
  flagged := fun _ _ _ => same rfl
  lit := fun _ _ _ _ _ => set rfl rfl rfl
  scheduled := fun hub _ _ cells delay _ => same (requeued_schedule cells.scan delay hub).leaves
  pinned := fun _ _ => same rfl
  bussed := fun _ _ => same rfl
  stored := fun _ _ => same rfl
  waited := fun _ _ => same rfl
  celled := fun _ _ _ _ => same rfl
  eventCelled := fun _ _ _ => same rfl
  subscribed := fun _ _ _ => same rfl
  flagsMade := fun _ _ => same rfl
  itemMade := fun _ _ => same rfl
  rescheduled := fun id delay hub => same (requeued_reschedule id delay hub).leaves
  cancelled := fun id hub => same (requeued_cancel id hub).leaves
  contexted := fun _ _ _ => set rfl rfl rfl
  retained := fun _ _ => set rfl rfl rfl
  released := fun _ _ => set rfl rfl rfl
  listed := fun _ _ _ => same rfl
  catalogued := fun _ _ _ _ _ _ => same rfl

theorem frame_sameFlags : Frame SameFlags :=
  frame_of_leaves passage_sameFlags sameFlags_of_leaves fun ready running _ => sameFlags_set ready running

/-- A new leaf is neither ready nor running, as if it had been so before. -/
theorem sameFlags_newLeaf {leaf : Leaf} (unready : leaf.ready = false) (stopped : leaf.running = false) :
    Act.Keeps SameFlags (newLeaf leaf) := by
  intro hub id
  show ((hub.leaves.add leaf).get id).ready = _ ∧ ((hub.leaves.add leaf).get id).running = _
  rw [Pool.get_add]
  split
  · rename_i new
    rw [Hub.leaf, Pool.get_unknown (Nat.le_of_eq new.symm)]
    exact ⟨unready, stopped⟩
  · exact ⟨rfl, rfl⟩

theorem sameFlags_takeTurn (id : QueueId) : Act.Keeps SameFlags (takeTurn id) :=
  frame_sameFlags.takeTurn (fun _ _ _ => sameFlags_of_leaves rfl) (fun _ _ _ => sameFlags_of_leaves rfl) id

end Hub

/-- The acts that the life of leaves is made of. -/
inductive FlagAct : {β : Type} → Act β → Prop
  | quiet {β : Type} {act : Act β} : act.Keeps Hub.SameFlags → FlagAct act
  | beginInit (id : LeafId) : FlagAct (Hub.beginInit id)
  | endInit (id : LeafId) (outcome : Except Fault Unit) : FlagAct (Hub.endInit id outcome)
  | endStart (id : LeafId) (outcome : Except Fault Unit) : FlagAct (Hub.endStart id outcome)
  | endStop (id : LeafId) (outcome : Except Fault Unit) : FlagAct (Hub.endStop id outcome)

namespace Routine

open Hub

variable {σ α : Type}

theorem allowsTurns_flagAct : AllowsTurns FlagAct where
  look := .quiet passage_sameFlags.get
  log := fun level line => .quiet (frame_sameFlags.log level line)
  turn := fun queue => .quiet (sameFlags_takeTurn queue)
  wait := fun time => .quiet (frame_sameFlags.waitUntil time)

theorem uses_quiet {act : Act α} (quiet : act.Keeps SameFlags) : (liftM act : Routine σ α).Uses FlagAct :=
  uses_act (.quiet quiet)

theorem sameFlags_setValue (name : String) (words : List String) :
    Act.Keeps SameFlags (Shell.setValue name words) :=
  frame_sameFlags.setValue name words

theorem uses_runCommand (command : Command) (args : List String) :
    (runCommand command args : Routine σ CommandResult).Uses FlagAct := by
  unfold runCommand
  split
  · exact uses_pure _
  · exact uses_quiet (frame_sameFlags.ledCommand _ args)
  · exact uses_quiet (frame_sameFlags.keypadCommand _ args)
  · exact uses_quiet (frame_sameFlags.settingsLeafCommand _ args)
  · exact uses_ofCall _

theorem allows_flagAct : Allows σ SameFlags (fun _ => True) FlagAct where
  toLogging := frame_sameFlags.cataloguing.toLogging
  quiet := .quiet
  registerClass := fun leafClass => .quiet (frame_sameFlags.registerClass leafClass)
  bootInitialise := .quiet frame_sameFlags.cataloguing.registering.bootInitialise
  shellBoot := .quiet frame_sameFlags.cataloguing.registering.shellBoot
  retained := frame_sameFlags.retained
  released := frame_sameFlags.released
  valued := fun name words _ => sameFlags_setValue name words
  beginInit := .beginInit
  endInit := .endInit
  endStart := .endStart
  endStop := .endStop
  calls := fun phase id => (frame_sameFlags.regime.uses_callClass phase id).mono .quiet
  commands := uses_runCommand

theorem uses_initLeaf (id : LeafId) : (initLeaf id : Routine σ (Except Fault Unit)).Uses FlagAct :=
  allows_flagAct.initLeaf id

theorem uses_startLeaf (id : LeafId) : (startLeaf id : Routine σ (Except Fault Unit)).Uses FlagAct :=
  allows_flagAct.startLeaf id

theorem allowsLife_flagAct : AllowsLife σ FlagAct :=
  allows_flagAct.parts.lives.allowsLife fun _ => trivial

end Routine

end LeafHub
