import LeafHub.Execution
import LeafHub.Proofs.Lifecycle.Flags

namespace LeafHub

variable {σ α : Type}

namespace Hub

/-- Every leaf that runs is ready. -/
def RunningReady (hub : Hub) : Prop :=
  ∀ id, (hub.leaf id).running = true → (hub.leaf id).ready = true

theorem RunningReady.same {hub after : Hub} (sound : hub.RunningReady) (same : hub.SameFlags after) :
    after.RunningReady := by
  intro id runs
  obtain ⟨ready, running⟩ := same id
  rw [running] at runs
  rw [ready]
  exact sound id runs

theorem RunningReady.set {hub after : Hub} {id : LeafId} {leaf : Leaf} (sound : hub.RunningReady)
    (leaves : after.leaves = hub.leaves.set id leaf)
    (ready : id < hub.leaves.size → leaf.running = true → leaf.ready = true) : after.RunningReady := by
  intro other runs
  have held : after.leaf other = if other = id ∧ id < hub.leaves.size then leaf else hub.leaf other := by
    rw [Hub.leaf, leaves]
    exact Pool.get_set _ _ _ _
  rw [held] at runs ⊢
  by_cases here : other = id ∧ id < hub.leaves.size
  · rw [if_pos here] at runs ⊢
    exact ready here.2 runs
  · rw [if_neg here] at runs ⊢
    exact sound other runs

theorem RunningReady.beginInit {hub : Hub} (sound : hub.RunningReady) (id : LeafId) :
    ((beginInit id).run hub).2.RunningReady := by
  have listed : Act.Keeps SameFlags (do
      log .debug s!"sys_init {(hub.leaf id).name}"
      log .info s!"NOTICE >INIT {(hub.leaf id).leafClass.name}/{(hub.leaf id).name}"
      registerLeaf id) := by
    refine passage_sameFlags.bind (frame_sameFlags.log _ _) fun _ => ?_
    exact passage_sameFlags.bind (frame_sameFlags.log _ _) fun _ => frame_sameFlags.registerLeaf id
  refine (sound.same (listed hub)).set rfl fun _ runs => ?_
  cases runs

theorem RunningReady.endInit {hub : Hub} (sound : hub.RunningReady) (id : LeafId) (outcome : Except Fault Unit) :
    ((endInit id outcome).run hub).2.RunningReady := by
  cases outcome with
  | ok => exact sound.set rfl fun _ _ => rfl
  | error fault => exact sound.same (sameFlags_of_leaves rfl)

theorem RunningReady.endStop {hub : Hub} (sound : hub.RunningReady) (id : LeafId) (outcome : Except Fault Unit) :
    ((endStop id outcome).run hub).2.RunningReady := by
  cases outcome with
  | ok =>
    refine sound.set rfl fun _ runs => ?_
    cases runs
  | error fault => exact sound

/-- An end of a start keeps to the rule if and only if the leaf it sets running is ready. -/
theorem RunningReady.endStart_iff {hub : Hub} (sound : hub.RunningReady) (id : LeafId)
    (outcome : Except Fault Unit) :
    ((endStart id outcome).run hub).2.RunningReady ↔
      (outcome = .ok () → id < hub.leaves.size → (hub.leaf id).ready = true) := by
  cases outcome with
  | ok =>
    have leaves : ((Hub.endStart id (.ok ())).run hub).2.leaves =
        hub.leaves.set id { hub.leaf id with running := true } := rfl
    constructor
    · intro after _ known
      have held : ((Hub.endStart id (.ok ())).run hub).2.leaf id = { hub.leaf id with running := true } := by
        rw [Hub.leaf, leaves, Pool.get_set_same known]
      have ready := after id
      rw [held] at ready
      exact ready rfl
    · intro ready
      exact sound.set leaves fun known _ => ready rfl known
  | error fault =>
    have after : ((Hub.endStart id (.error fault)).run hub).2.RunningReady := sound.same (sameFlags_of_leaves rfl)
    exact ⟨fun _ failed => (by cases failed), fun _ => after⟩

end Hub

namespace Routine

open Hub

/-- The next step is to set a leaf running, because its class answered a start with success. -/
def SetsRunning (routine : Routine σ α) (id : LeafId) : Prop :=
  ∃ next, routine = .hub (Hub.endStart id (.ok ())) next

theorem Uses.runningReady {app : Application σ} {routine : Routine σ α} {world : World σ} (uses : routine.Uses FlagAct)
    (sound : world.hub.RunningReady) (ready : ∀ id, routine.SetsRunning id → id < world.hub.leaves.size →
      (world.hub.leaf id).ready = true) : (routine.step app world).2.hub.RunningReady := by
  cases routine with
  | done answer => exact sound
  | own act next => exact sound
  | call c next => exact sound
  | hub act next =>
    obtain ⟨flag, _⟩ := uses
    cases flag with
    | quiet keeps => exact sound.same (keeps world.hub)
    | beginInit id => exact sound.beginInit id
    | endInit id outcome => exact sound.endInit id outcome
    | endStop id outcome => exact sound.endStop id outcome
    | endStart id outcome =>
      refine (sound.endStart_iff id outcome).2 fun succeeded known => ?_
      subst succeeded
      exact ready id ⟨next, rfl⟩ known

/-- Whatever is done to the life of leaves, running implies ready at every point if and only if no leaf is set running
that is not ready, which is when its class inited it during its own start, in vain. -/
theorem running_implies_ready_iff {app : Application σ} {routine : Routine σ α} {world : World σ}
    (application : app.Uses FlagAct) (uses : routine.Uses FlagAct) (start : world.hub.RunningReady) :
    AllowsLife σ FlagAct ∧
    ((∀ limit, (routine.run app limit world).2.hub.RunningReady) ↔
      ∀ limit id, (routine.run app limit world).1.SetsRunning id →
        id < (routine.run app limit world).2.hub.leaves.size →
          ((routine.run app limit world).2.hub.leaf id).ready = true) := by
  have bodies := application.body allowsTurns_flagAct
  refine ⟨allowsLife_flagAct, ?_⟩
  constructor
  · rintro sound limit id ⟨next, there⟩ known
    have after := sound (limit + 1)
    rw [run_next, there] at after
    exact ((sound limit).endStart_iff id (.ok ())).1 after rfl known
  · intro ready limit
    induction limit with
    | zero => exact start
    | succ limit ih =>
      rw [run_next]
      exact (uses.run bodies world limit).runningReady ih (ready limit)

/-- A hub with one leaf, which is ready. -/
def readyWorld : World Unit where
  hub := { fresh .standard with leaves := ⟨#[{ Leaf.fresh ⟨"c", none, .custom 0⟩ "a" none with ready := true }]⟩ }
  own := ()

theorem running_implies_ready_silent :
    (∀ limit, ((startLeaf 0).run Application.silent limit readyWorld).2.hub.RunningReady) ∧
      (((startLeaf 0).run Application.silent 12 readyWorld).2.hub.leaf 0).running = true := by
  have application : Application.Uses FlagAct (.silent : Application Unit) := Application.uses_silent
  have start : readyWorld.hub.RunningReady := by
    intro id runs
    rcases Nat.eq_zero_or_pos id with rfl | beyond
    · rfl
    · rw [Hub.leaf, Pool.get_unknown beyond] at runs
      cases runs
  have early : ∀ limit < 12, ((startLeaf 0).run Application.silent limit readyWorld).2.hub.leaves.size = 1 ∧
      (((startLeaf 0).run Application.silent limit readyWorld).2.hub.leaf 0).ready = true := by decide +kernel
  obtain ⟨_, always_iff⟩ := running_implies_ready_iff application (uses_startLeaf 0) start
  refine ⟨always_iff.2 fun limit id sets known => ?_, by decide +kernel⟩
  obtain ⟨next, there⟩ := sets
  by_cases soon : limit < 12
  · obtain ⟨size, ready⟩ := early limit soon
    rw [size] at known
    rw [Nat.lt_one_iff.1 known]
    exact ready
  · obtain ⟨more, rfl⟩ := Nat.exists_eq_add_of_le (Nat.le_of_not_lt soon)
    have ended : ((startLeaf 0).run Application.silent 12 readyWorld).1 = .done (.ok ()) := rfl
    rw [run_add, ended, run_done] at there
    cases there

/-- A class whose init succeeds once, and whose start inits the leaf again and never minds how that went. -/
def relapsing : Application Bool :=
  { Application.silent with
    phase := fun _ phase leaf => do
      match phase with
      | .init =>
        let again ← ofOwn get
        ofOwn (set true)
        return if again then .error .allocationFailure else .ok ()
      | .start =>
        discard (initLeaf leaf)
        return .ok ()
      | _ => return .ok () }

/-- Makes a leaf of that class, inits it and starts it. -/
def relapse : Routine Bool (Except Fault Unit) := do
  let leaf ← Hub.newLeaf (.fresh ⟨"c", none, .custom 0⟩ "a" none)
  discard (initLeaf leaf)
  startLeaf leaf

theorem running_not_ready_relapsing :
    relapsing.Uses FlagAct ∧ relapse.Uses FlagAct ∧ (fresh .standard).RunningReady ∧
      ((relapse.run relapsing 60 ⟨fresh .standard, false⟩).2.hub.leaf 0).running = true ∧
      ((relapse.run relapsing 60 ⟨fresh .standard, false⟩).2.hub.leaf 0).ready = false := by
  have application : relapsing.Uses FlagAct :=
    { Application.uses_silent with
      phase := fun _ phase leaf => by
        cases phase with
        | init => exact uses_bind (uses_ofOwn _) fun _ => uses_bind (uses_ofOwn _) fun _ => uses_pure _
        | start => exact uses_bind (uses_bind (uses_initLeaf leaf) fun _ => uses_pure _) fun _ => uses_pure _
        | stop | preSleep | postSleep => exact uses_pure _ }
  have uses : relapse.Uses FlagAct := by
    refine uses_bind (uses_quiet (sameFlags_newLeaf rfl rfl)) fun leaf => ?_
    exact uses_bind (uses_bind (uses_initLeaf leaf) fun _ => uses_pure _) fun _ => uses_startLeaf leaf
  have start : (fresh .standard).RunningReady := by
    intro id runs
    rw [Hub.leaf, Pool.get_unknown (Nat.zero_le id)] at runs
    cases runs
  exact ⟨application, uses, start, by decide +kernel, by decide +kernel⟩

end Routine

end LeafHub
