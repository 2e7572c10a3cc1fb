import LeafHub.Proofs.Lifecycle.Carried
import LeafHub.Proofs.Lifecycle.Schedule

namespace LeafHub

/-- Whether the leaf is ready, and whether it runs. -/
def Leaf.standing (leaf : Leaf) : Bool × Bool :=
  (leaf.ready, leaf.running)

namespace Hub

/-- The leaves that there are keep their flags. -/
def Aloof (hub after : Hub) : Prop :=
  ∀ id < hub.leaves.size, id < after.leaves.size ∧ (after.leaf id).standing = (hub.leaf id).standing

/-- As `Aloof`, but one leaf gets other flags. -/
def Sets (id : LeafId) (standing : Bool × Bool) (hub after : Hub) : Prop :=
  ∀ other < hub.leaves.size, other < after.leaves.size ∧
    (after.leaf other).standing = if other = id then standing else (hub.leaf other).standing

theorem Aloof.trans {first second third : Hub} (one : first.Aloof second) (two : second.Aloof third) :
    first.Aloof third := by
  intro id known
  obtain ⟨kept, same⟩ := one id known
  obtain ⟨still, same'⟩ := two id kept
  exact ⟨still, same'.trans same⟩

theorem passage_aloof : Passage Aloof where
  refl := fun _ _ known => ⟨known, rfl⟩
  trans := .trans

theorem aloof_of_leaves {hub after : Hub} (same : after.leaves = hub.leaves) : hub.Aloof after := by
  intro id known
  simp only [Hub.leaf, same, known, and_self]

theorem sets_of_leaves {hub after : Hub} {id : LeafId} {leaf : Leaf} {standing : Bool × Bool}
    (leaves : after.leaves = hub.leaves.set id leaf) (flags : leaf.standing = standing) : hub.Sets id standing after := by
  intro other known
  have size : after.leaves.size = hub.leaves.size := by rw [leaves, Pool.size_set]
  refine ⟨size ▸ known, ?_⟩
  rw [Hub.leaf, leaves, Pool.get_set]
  by_cases here : other = id
  · rw [if_pos ⟨here, here ▸ known⟩, if_pos here, flags]
  · rw [if_neg fun both => here both.1, if_neg here]
    rfl

/-- A leaf that gets the flags it has gets no others. -/
theorem sets_own_iff {hub after : Hub} {id : LeafId} :
    hub.Sets id (hub.leaf id).standing after ↔ hub.Aloof after := by
  have same (other : LeafId) : (if other = id then (hub.leaf id).standing else (hub.leaf other).standing) =
      (hub.leaf other).standing := by
    split
    · rename_i here
      rw [here]
    · rfl
  simp only [Sets, Aloof, same]

theorem Aloof.sets {hub after : Hub} (aloof : hub.Aloof after) (id : LeafId) :
    hub.Sets id (hub.leaf id).standing after :=
  sets_own_iff.mpr aloof

theorem Sets.trans {first second third : Hub} {id : LeafId} {one two : Bool × Bool} (here : first.Sets id one second)
    (there : second.Sets id two third) : first.Sets id two third := by
  intro other known
  obtain ⟨kept, standing⟩ := here other known
  obtain ⟨still, standing'⟩ := there other kept
  refine ⟨still, standing'.trans ?_⟩
  split
  · rfl
  · rename_i apart
    rw [standing, if_neg apart]

theorem Sets.followed {first second third : Hub} {id : LeafId} {standing : Bool × Bool}
    (sets : first.Sets id standing second) (aloof : second.Aloof third) : first.Sets id standing third := by
  intro other known
  obtain ⟨kept, same⟩ := sets other known
  obtain ⟨still, same'⟩ := aloof other kept
  exact ⟨still, same'.trans same⟩

theorem Sets.own {hub after : Hub} {id : LeafId} {standing : Bool × Bool} (sets : hub.Sets id standing after)
    (known : id < hub.leaves.size) : id < after.leaves.size ∧ (after.leaf id).standing = standing := by
  obtain ⟨kept, same⟩ := sets id known
  rw [if_pos rfl] at same
  exact ⟨kept, same⟩

theorem Sets.other {hub after : Hub} {id other : LeafId} {standing : Bool × Bool} (sets : hub.Sets id standing after)
    (apart : other ≠ id) (known : other < hub.leaves.size) :
    other < after.leaves.size ∧ (after.leaf other).standing = (hub.leaf other).standing := by
  obtain ⟨kept, same⟩ := sets other known
  rw [if_neg apart] at same
  exact ⟨kept, same⟩

theorem frame_aloof : Frame Aloof :=
  frame_of_leaves passage_aloof aloof_of_leaves fun ready running _ =>
    sets_own_iff.mp (sets_of_leaves rfl (congrArg₂ Prod.mk ready running))

theorem sets_beginInit (hub : Hub) (id : LeafId) : hub.Sets id (false, false) ((beginInit id).run hub).2 := by
  have listed : Act.Keeps Aloof (do
      log .debug s!"sys_init {(hub.leaf id).name}"
      log .info s!"NOTICE >INIT {(hub.leaf id).leafClass.name}/{(hub.leaf id).name}"
      registerLeaf id) := by
    refine passage_aloof.bind (frame_aloof.log _ _) fun _ => ?_
    exact passage_aloof.bind (frame_aloof.log _ _) fun _ => frame_aloof.registerLeaf id
  exact ((listed hub).sets id).trans (sets_of_leaves rfl rfl)

theorem sets_endInit (hub : Hub) (id : LeafId) (outcome : Except Fault Unit) :
    hub.Sets id (outcome.isOk || (hub.leaf id).ready, (hub.leaf id).running) ((endInit id outcome).run hub).2 := by
  cases outcome with
  | ok => exact sets_of_leaves rfl rfl
  | error fault => exact Aloof.sets (aloof_of_leaves rfl) id

theorem sets_endStart (hub : Hub) (id : LeafId) (outcome : Except Fault Unit) :
    hub.Sets id ((hub.leaf id).ready, outcome.isOk || (hub.leaf id).running) ((endStart id outcome).run hub).2 := by
  cases outcome with
  | ok => exact sets_of_leaves rfl rfl
  | error fault => exact Aloof.sets (aloof_of_leaves rfl) id

theorem allowsTurns_aloof : AllowsTurns (Act.Keeps Aloof) where
  look := passage_aloof.get
  log := frame_aloof.log
  turn := frame_aloof.takeTurn (fun _ _ _ => aloof_of_leaves rfl) (fun _ _ _ => aloof_of_leaves rfl)
  wait := frame_aloof.waitUntil

end Hub

namespace Routine

open Hub

variable {σ α : Type} {app : Application σ} {world after : World σ} {id : LeafId} {action : BootAction} {deed : Deed}

theorem aloof_finish (step : BootStep) : Act.Keeps Aloof step.finish :=
  frame_aloof.cataloguing.finish frame_aloof.released step

section Aloof

variable (application : app.Uses (Act.Keeps Aloof))

include application

theorem Returns.aloof {routine : Routine σ α} {answer : α} (returns : routine.Returns app world answer after)
    (uses : routine.Uses (Act.Keeps Aloof)) : world.hub.Aloof after.hub :=
  returns.keeps passage_aloof (fun keeps => keeps) (application.body allowsTurns_aloof) uses

theorem aloof_callClass {phase : Phase} {outcome : Except Fault Unit}
    (called : (callClass phase id).Returns app world outcome after) : world.hub.Aloof after.hub :=
  called.aloof application (frame_aloof.regime.uses_callClass phase id)

/-- An entry leaves the flags of a leaf alone that it is not about. -/
theorem Carries.spares (carries : Carries app action world deed after) (apart : action.leaf? ≠ some id)
    (known : id < world.hub.leaves.size) :
    id < after.hub.leaves.size ∧ (after.hub.leaf id).standing = (world.hub.leaf id).standing := by
  cases carries with
  | registerClass leafClass => exact frame_aloof.registerClass leafClass world.hub id known
  | hook called => exact called.aloof application (application.hook _) id known
  | skip => exact frame_aloof.log _ _ world.hub id known
  | @init other _ outcome between called =>
    have begun := ((frame_aloof.retained other world.hub).sets other).trans (sets_beginInit _ other)
    have ended := (begun.followed (aloof_callClass application called)).trans (sets_endInit _ other outcome)
    have whole := ended.followed (frame_aloof.released other _)
    exact whole.other (fun same => apart (congrArg some same.symm)) known
  | @start other _ outcome between _ called =>
    have begun := (frame_aloof.retained other world.hub).trans (frame_aloof.cataloguing.registering.beginStart other _)
    have answered := begun.trans (aloof_callClass application called)
    have whole := ((answered.sets other).trans (sets_endStart _ other outcome)).followed (frame_aloof.released other _)
    exact whole.other (fun same => apart (congrArg some same.symm)) known

theorem Carries.inits (carries : Carries app (.initLeaf id) world deed after) (known : id < world.hub.leaves.size) :
    ∃ outcome, deed = .answered outcome ∧ world.hub.Sets id (outcome.isOk, false) after.hub := by
  cases carries with
  | @init _ _ outcome between called =>
    have begun := ((frame_aloof.retained id world.hub).sets id).trans (sets_beginInit _ id)
    have answered := begun.followed (aloof_callClass application called)
    obtain ⟨_, standing⟩ := answered.own known
    obtain ⟨unready, stopped⟩ := Prod.mk.inj standing
    have ended := answered.trans (sets_endInit _ id outcome)
    rw [unready, stopped, Bool.or_false] at ended
    exact ⟨outcome, rfl, ended.followed (frame_aloof.released id _)⟩

/-- The class of a leaf that is not ready is not called. -/
theorem Carries.starts (carries : Carries app (.startLeaf id) world deed after) (known : id < world.hub.leaves.size) :
    ((world.hub.leaf id).ready = true ∧ ∃ outcome, deed = .answered outcome ∧
      world.hub.Sets id (true, outcome.isOk || (world.hub.leaf id).running) after.hub) ∨
    ((world.hub.leaf id).ready = false ∧ deed = .skipped ∧ world.hub.Aloof after.hub) := by
  cases carries with
  | skip unready => exact .inr ⟨unready, rfl, frame_aloof.log _ _ world.hub⟩
  | @start _ _ outcome between ready called =>
    have begun := (frame_aloof.retained id world.hub).trans (frame_aloof.cataloguing.registering.beginStart id _)
    have answered := begun.trans (aloof_callClass application called)
    obtain ⟨_, standing⟩ := answered id known
    obtain ⟨still, running⟩ := Prod.mk.inj standing
    have ended := (answered.sets id).trans (sets_endStart _ id outcome)
    rw [still, ready, running] at ended
    exact .inl ⟨ready, outcome, rfl, ended.followed (frame_aloof.released id _)⟩

theorem Boots.spares {steps : List BootStep} (boots : Boots app steps world after)
    (apart : ∀ step ∈ steps, step.entry.concerns id = false) (known : id < world.hub.leaves.size) :
    id < after.hub.leaves.size ∧ (after.hub.leaf id).standing = (world.hub.leaf id).standing := by
  induction boots with
  | nil => exact ⟨known, rfl⟩
  | @cons step rest _ between _ carries _ ih =>
    obtain ⟨kept, same⟩ := carries.spares application (of_decide_eq_false (apart step List.mem_cons_self)) known
    obtain ⟨still, same'⟩ := aloof_finish step between.hub id kept
    obtain ⟨last, same''⟩ := ih (fun other member => apart other (List.mem_cons_of_mem _ member)) still
    exact ⟨last, same''.trans (same'.trans same)⟩

/-- The boot up to the first step of a leaf. -/
theorem Boots.of_own {steps own : List BootStep} {step : BootStep} (boots : Boots app steps world after)
    (filtered : steps.filter (·.entry.concerns id) = step :: own) (known : id < world.hub.leaves.size) :
    ∃ rest before between, Carries app step.entry.action before step.deed between ∧ id < before.hub.leaves.size ∧
      (before.hub.leaf id).standing = (world.hub.leaf id).standing ∧
      Boots app rest (between.after step.finish) after ∧ rest.filter (·.entry.concerns id) = own := by
  obtain ⟨earlier, rest, rfl, quiet, _, later⟩ := List.filter_eq_cons_iff.mp filtered
  obtain ⟨before, first, boots⟩ := boots.of_append
  obtain ⟨kept, same⟩ := first.spares application (fun other member => Bool.not_eq_true _ ▸ quiet other member) known
  cases boots with
  | cons carries boots => exact ⟨rest, before, _, carries, kept, same, boots, later⟩

/-- A leaf whose entries are its init and its start ends up as these two went. -/
theorem Boots.standing {steps : List BootStep} {name : String} {first second : Deed} (boots : Boots app steps world after)
    (own : steps.filter (·.entry.concerns id) = [⟨.initOf id name, first⟩, ⟨.startOf id name, second⟩])
    (known : id < world.hub.leaves.size) :
    (first = .answered (.ok ()) ∧ ∃ outcome, second = .answered outcome ∧
      (after.hub.leaf id).standing = (true, outcome.isOk)) ∨
    ∃ fault, first = .answered (.error fault) ∧ second = .skipped ∧ (after.hub.leaf id).standing = (false, false) := by
  -- the boot parts at the two entries of the leaf; what comes before, between and after them spares it
  obtain ⟨_, before, between, inits, early, _, later, left⟩ := boots.of_own application own known
  obtain ⟨outcome, rfl, inited⟩ := inits.inits application early
  obtain ⟨early, answered⟩ := inited.own early
  obtain ⟨early, finished⟩ := aloof_finish ⟨.initOf id name, .answered outcome⟩ between.hub id early
  obtain ⟨rest, ahead, last, starts, late, waited, later, none⟩ := later.of_own application left early
  have standing := waited.trans (finished.trans answered)
  obtain ⟨ready, stopped⟩ := Prod.mk.inj standing
  have quiet : ∀ step ∈ rest, step.entry.concerns id = false := fun step member =>
    Bool.not_eq_true _ ▸ List.filter_eq_nil_iff.mp none step member
  have ended {flags : Bool × Bool} (there : id < last.hub.leaves.size ∧ (last.hub.leaf id).standing = flags) :
      (after.hub.leaf id).standing = flags := by
    obtain ⟨known, same⟩ := aloof_finish ⟨.startOf id name, second⟩ last.hub id there.1
    exact (later.spares application quiet known).2.trans (same.trans there.2)
  obtain ⟨granted, answer, rfl, started⟩ | ⟨refused, rfl, aloof⟩ := starts.starts application late
  · rw [ready] at granted
    rw [stopped, Bool.or_false] at started
    cases outcome with
    | error fault => cases granted
    | ok => exact .inl ⟨rfl, answer, rfl, ended (started.own late)⟩
  · rw [ready] at refused
    cases outcome with
    | ok => cases refused
    | error fault =>
      obtain ⟨kept, same⟩ := aloof id late
      exact .inr ⟨fault, rfl, rfl, ended ⟨kept, same.trans standing⟩⟩

end Aloof

end Routine

end LeafHub
