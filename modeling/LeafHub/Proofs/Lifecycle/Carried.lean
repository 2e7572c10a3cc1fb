import Mathlib.Logic.Basic
import LeafHub.Proofs.Lifecycle.Flags
import LeafHub.Proofs.Routine.Returns

namespace LeafHub

variable {σ : Type}

/-- What became of an entry. -/
inductive Deed where
  | registered
  /-- The answer of the class or the hook that was called. -/
  | answered (outcome : Except Fault Unit)
  /-- The class was not called. -/
  | skipped

def Deed.outcome : Deed → Except Fault Unit
  | .registered => .ok ()
  | .answered outcome => outcome
  | .skipped => .error .notReady

structure BootStep where
  entry : BootEntry
  deed : Deed

namespace BootStep

def failure? (step : BootStep) : Option (String × Fault) :=
  match step.deed.outcome with
  | .ok () => none
  | .error fault => some (step.entry.label, fault)

/-- What is left to do when an entry has been carried out. -/
def finish (step : BootStep) : Act Unit := do
  step.entry.action.leaf?.forM Hub.release
  match step.deed.outcome with
  | .ok () => pure ()
  | .error fault => Hub.log .warn s!"boot: {step.entry.label} (prio {step.entry.priority}) failed: {fault.message}"

end BootStep

theorem Logging.finish {R : Hub → Hub → Prop} (logging : Logging R) (released : ∀ id, Act.Keeps R (Hub.release id))
    (step : BootStep) : Act.Keeps R step.finish := by
  unfold BootStep.finish
  refine logging.bind (logging.eachOption released _) fun _ => ?_
  split
  · exact logging.pure _
  · exact logging.logged _ _

namespace BootReport

/-- The report after more steps. -/
def extend (report : BootReport) (steps : List BootStep) : BootReport :=
  ⟨report.ran + steps.length, report.failures ++ steps.filterMap BootStep.failure?⟩

theorem extend_nil (report : BootReport) : report.extend [] = report := by
  simp [extend]

theorem extend_cons (report : BootReport) (step : BootStep) (rest : List BootStep) :
    report.extend (step :: rest) = (report.extend [step]).extend rest := by
  have failures : (step :: rest).filterMap BootStep.failure? =
      [step].filterMap BootStep.failure? ++ rest.filterMap BootStep.failure? := by
    rw [← List.filterMap_append, List.singleton_append]
  simp only [extend, failures, List.length_cons, List.length_nil, List.append_assoc]
  congr 1
  omega

end BootReport

namespace Routine

/-- An action is carried out. -/
inductive Carries (app : Application σ) : BootAction → World σ → Deed → World σ → Prop
  | registerClass (leafClass world) :
      Carries app (.registerClass leafClass) world .registered (world.after (Hub.registerClass leafClass))
  | init {id world outcome between} :
      (callClass .init id).Returns app ((world.after (Hub.retain id)).after (Hub.beginInit id)) outcome between →
      Carries app (.initLeaf id) world (.answered outcome)
        ((between.after (Hub.endInit id outcome)).after (Hub.release id))
  | start {id world outcome between} : (world.hub.leaf id).ready = true →
      (callClass .start id).Returns app ((world.after (Hub.retain id)).after (Hub.beginStart id)) outcome between →
      Carries app (.startLeaf id) world (.answered outcome)
        ((between.after (Hub.endStart id outcome)).after (Hub.release id))
  | skip {id world} : (world.hub.leaf id).ready = false →
      Carries app (.startLeaf id) world .skipped
        (world.after (Hub.log .warn s!"boot: skipping start of {(world.hub.leaf id).name}, not ready"))
  | hook {behaviour world outcome after} : (app.hook behaviour).Returns app world outcome after →
      Carries app (.hook behaviour) world (.answered outcome) after

/-- Steps are carried out one after the other. -/
inductive Boots (app : Application σ) : List BootStep → World σ → World σ → Prop
  | nil (world) : Boots app [] world world
  | cons {step rest world between after} : Carries app step.entry.action world step.deed between →
      Boots app rest (between.after step.finish) after → Boots app (step :: rest) world after

variable {app : Application σ} {world after : World σ} {id : LeafId} {outcome : Except Fault Unit}

/-- A routine, and what is made of its answer. -/
theorem returns_concluded_iff {routine : Routine σ (Except Fault Unit)} {conclude : Except Fault Unit → Act Unit} :
    (do
      let outcome ← routine
      conclude outcome
      return outcome : Routine σ (Except Fault Unit)).Returns app world outcome after ↔
      ∃ between, routine.Returns app world outcome between ∧ between.after (conclude outcome) = after := by
  rw [returns_bind_iff]
  simp only [returns_act_bind_iff, returns_pure_iff]
  constructor
  · rintro ⟨_, between, here, rfl, rfl⟩
    exact ⟨between, here, rfl⟩
  · rintro ⟨between, here, rfl⟩
    exact ⟨_, between, here, rfl, rfl⟩

theorem returns_holding_iff {body : Routine σ (Except Fault Unit)} :
    (holding [id] body).Returns app world outcome after ↔ ∃ between,
      body.Returns app (world.after (Hub.retain id)) outcome between ∧ between.after (Hub.release id) = after := by
  rw [holding, returns_act_bind_iff]
  exact returns_concluded_iff

theorem returns_initLeaf_iff :
    (initLeaf id).Returns app world outcome after ↔ ∃ between,
      (callClass .init id).Returns app ((world.after (Hub.retain id)).after (Hub.beginInit id)) outcome between ∧
        (between.after (Hub.endInit id outcome)).after (Hub.release id) = after := by
  simp only [initLeaf, returns_holding_iff, returns_act_bind_iff, returns_concluded_iff, exists_exists_and_eq_and]

theorem ready_retain (hub : Hub) (id : LeafId) : (((Hub.retain id).run hub).2.leaf id).ready = (hub.leaf id).ready :=
  (Hub.frame_sameFlags.retained id hub id).1

theorem beginStart_ready (hub : Hub) (id : LeafId) : ((Hub.beginStart id).run hub).1 = (hub.leaf id).ready := by
  unfold Hub.beginStart
  simp only [StateT.run_bind, StateT.run_get, pure_bind]
  split <;> rfl

theorem returns_startLeaf_iff (ready : (world.hub.leaf id).ready = true) :
    (startLeaf id).Returns app world outcome after ↔ ∃ between,
      (callClass .start id).Returns app ((world.after (Hub.retain id)).after (Hub.beginStart id)) outcome between ∧
        (between.after (Hub.endStart id outcome)).after (Hub.release id) = after := by
  have begins : ((Hub.beginStart id).run (world.after (Hub.retain id)).hub).1 = true := by
    rw [beginStart_ready]
    exact (ready_retain _ _).trans ready
  simp only [startLeaf, returns_holding_iff, returns_act_bind_iff, begins, if_true, returns_concluded_iff,
    exists_exists_and_eq_and]

theorem returns_stopLeaf_iff : (stopLeaf id).Returns app world outcome after ↔ ∃ between,
    (callClass .stop id).Returns app (world.after (Hub.retain id)) outcome between ∧
      (between.after (Hub.endStop id outcome)).after (Hub.release id) = after := by
  simp only [stopLeaf, returns_holding_iff, returns_concluded_iff, exists_exists_and_eq_and]

/-- A boot looks at the leaf before it starts it. -/
theorem returns_bootStart_iff : (bootAction (.startLeaf id)).Returns app world outcome after ↔
    ∃ deed, deed.outcome = outcome ∧ Carries app (.startLeaf id) world deed after := by
  have look : (bootAction (.startLeaf id)).Returns app world outcome after ↔
      (if (world.hub.leaf id).ready = true then startLeaf id else do
        Hub.log .warn s!"boot: skipping start of {(world.hub.leaf id).name}, not ready"
        return .error .notReady).Returns app world outcome after := returns_act_bind_iff
  rw [look]
  cases ready : (world.hub.leaf id).ready with
  | true =>
    rw [if_pos rfl, returns_startLeaf_iff ready]
    constructor
    · rintro ⟨between, here, rfl⟩
      exact ⟨_, rfl, .start ready here⟩
    · rintro ⟨_, rfl, carried⟩
      cases carried with
      | start _ here => exact ⟨_, here, rfl⟩
      | skip unready => rw [ready] at unready; cases unready
  | false =>
    rw [if_neg Bool.false_ne_true]
    simp only [returns_act_bind_iff, returns_pure_iff]
    constructor
    · rintro ⟨rfl, rfl⟩
      exact ⟨_, rfl, .skip ready⟩
    · rintro ⟨_, rfl, carried⟩
      cases carried with
      | start started => rw [ready] at started; cases started
      | skip => exact ⟨rfl, rfl⟩

theorem returns_bootAction_iff {action : BootAction} : (bootAction action).Returns app world outcome after ↔
    ∃ deed, deed.outcome = outcome ∧ Carries app action world deed after := by
  cases action with
  | registerClass leafClass =>
    unfold bootAction
    simp only [returns_act_bind_iff, returns_pure_iff]
    constructor
    · rintro ⟨rfl, rfl⟩
      exact ⟨_, rfl, .registerClass leafClass world⟩
    · rintro ⟨_, rfl, carried⟩
      cases carried
      exact ⟨rfl, rfl⟩
  | initLeaf id =>
    unfold bootAction
    rw [returns_initLeaf_iff]
    constructor
    · rintro ⟨between, here, rfl⟩
      exact ⟨_, rfl, .init here⟩
    · rintro ⟨_, rfl, carried⟩
      cases carried with
      | init here => exact ⟨_, here, rfl⟩
  | startLeaf id => exact returns_bootStart_iff
  | hook behaviour =>
    refine returns_call_iff.trans ⟨fun here => ⟨_, rfl, .hook here⟩, ?_⟩
    rintro ⟨_, rfl, carried⟩
    cases carried with
    | hook here => exact here

/-- What follows an entry in a boot. -/
theorem returns_rest_iff {step : BootStep} {rest : List BootEntry} {report ended : BootReport} :
    (do
      (step.entry.action.leaf?.forM Hub.release : Act Unit)
      let counted := { report with ran := report.ran + 1 }
      match step.deed.outcome with
      | .ok () => bootEntries rest counted
      | .error fault =>
        Hub.log .warn s!"boot: {step.entry.label} (prio {step.entry.priority}) failed: {fault.message}"
        bootEntries rest (counted.fail step.entry.label fault) : Routine σ BootReport).Returns app world ended after ↔
      (bootEntries rest (report.extend [step])).Returns app (world.after step.finish) ended after := by
  rw [returns_act_bind_iff]
  cases answer : step.deed.outcome with
  | ok =>
    have report' : report.extend [step] = { report with ran := report.ran + 1 } := by
      simp [BootReport.extend, BootStep.failure?, answer]
    have finish : step.finish = (do step.entry.action.leaf?.forM Hub.release; pure ()) := by
      rw [BootStep.finish, answer]
    rw [report', finish]
    rfl
  | error fault =>
    have report' : report.extend [step] = { report with ran := report.ran + 1 }.fail step.entry.label fault := by
      simp [BootReport.extend, BootStep.failure?, BootReport.fail, answer]
    have finish : step.finish = (do
        step.entry.action.leaf?.forM Hub.release
        Hub.log .warn s!"boot: {step.entry.label} (prio {step.entry.priority}) failed: {fault.message}") := by
      rw [BootStep.finish, answer]
    rw [report', finish]
    exact returns_act_bind_iff

theorem returns_bootEntries_iff {entries : List BootEntry} {report ended : BootReport} :
    (bootEntries entries report).Returns app world ended after ↔
      ∃ steps : List BootStep, steps.map BootStep.entry = entries ∧ Boots app steps world after ∧
        ended = report.extend steps := by
  induction entries generalizing report world with
  | nil =>
    refine returns_pure_iff.trans ⟨?_, ?_⟩
    · rintro ⟨rfl, rfl⟩
      exact ⟨[], rfl, .nil _, (BootReport.extend_nil _).symm⟩
    · rintro ⟨steps, none, boots, rfl⟩
      rw [List.map_eq_nil_iff] at none
      subst none
      cases boots
      exact ⟨BootReport.extend_nil _, rfl⟩
  | cons entry rest ih =>
    refine returns_bind_iff.trans ⟨?_, ?_⟩
    · rintro ⟨_, between, carried, later⟩
      obtain ⟨deed, rfl, carries⟩ := returns_bootAction_iff.mp carried
      let step : BootStep := ⟨entry, deed⟩
      have resumed : (bootEntries rest (report.extend [step])).Returns app (between.after step.finish) ended after :=
        returns_rest_iff.mp later
      obtain ⟨steps, rfl, boots, rfl⟩ := ih.mp resumed
      exact ⟨step :: steps, rfl, .cons carries boots, (report.extend_cons step steps).symm⟩
    · rintro ⟨steps, same, boots, rfl⟩
      cases boots with
      | nil => cases same
      | @cons step steps _ between _ carries boots =>
        cases same
        have later := ih.mpr ⟨steps, rfl, boots, report.extend_cons step steps⟩
        exact ⟨_, between, returns_bootAction_iff.mpr ⟨_, rfl, carries⟩, returns_rest_iff.mpr later⟩

theorem Boots.of_append {first second : List BootStep} (boots : Boots app (first ++ second) world after) :
    ∃ between, Boots app first world between ∧ Boots app second between after := by
  induction first generalizing world with
  | nil => exact ⟨world, .nil world, boots⟩
  | cons step first ih =>
    cases boots with
    | cons carries rest =>
      obtain ⟨between, here, there⟩ := ih rest
      exact ⟨between, .cons carries here, there⟩

/-- The classes and the hooks of the application answer, whenever they are called. -/
structure Answering (app : Application σ) : Prop where
  phase : ∀ behaviour phase leaf world, ∃ outcome after, (app.phase behaviour phase leaf).Returns app world outcome after
  hook : ∀ behaviour world, ∃ outcome after, (app.hook behaviour).Returns app world outcome after

theorem returns_callClass_iff {phase : Phase} : (callClass phase id).Returns app world outcome after ↔
    (calls phase id (world.hub.leaf id).leafClass.callbacks).Returns app world outcome after := by
  rw [callClass_eq, returns_act_bind_iff]
  exact Iff.rfl

theorem Answering.callClass (answers : Answering app) (phase : Phase) (id : LeafId) (world : World σ) :
    ∃ outcome after, (Routine.callClass phase id).Returns app world outcome after := by
  simp only [returns_callClass_iff]
  cases (world.hub.leaf id).leafClass.callbacks with
  | inert => exact ⟨_, _, returns_pure_iff.mpr ⟨rfl, rfl⟩⟩
  | led | keypad | settings => exact ⟨_, _, returns_act_iff.mpr ⟨rfl, rfl⟩⟩
  | custom behaviour =>
    obtain ⟨outcome, after, returns⟩ := answers.phase behaviour phase id world
    exact ⟨outcome, after, returns_call_iff.mpr returns⟩

theorem Answering.carries (answers : Answering app) (action : BootAction) (world : World σ) :
    ∃ deed after, Carries app action world deed after := by
  cases action with
  | registerClass leafClass => exact ⟨_, _, .registerClass leafClass world⟩
  | initLeaf id =>
    obtain ⟨outcome, between, called⟩ := answers.callClass .init id _
    exact ⟨_, _, .init called⟩
  | startLeaf id =>
    cases ready : (world.hub.leaf id).ready with
    | true =>
      obtain ⟨outcome, between, called⟩ := answers.callClass .start id _
      exact ⟨_, _, .start ready called⟩
    | false => exact ⟨_, _, .skip ready⟩
  | hook behaviour =>
    obtain ⟨outcome, after, called⟩ := answers.hook behaviour world
    exact ⟨_, _, .hook called⟩

/-- When every entry that is come to is carried out, all of them are. -/
theorem boots_all {entries : List BootEntry} (carried : ∀ (steps : List BootStep) (entry : BootEntry) rest between,
    entries = steps.map BootStep.entry ++ entry :: rest → Boots app steps world between →
      ∃ deed after, Carries app entry.action between deed after) :
    ∃ (steps : List BootStep) (last : World σ), steps.map BootStep.entry = entries ∧ Boots app steps world last := by
  induction entries generalizing world with
  | nil => exact ⟨[], world, rfl, .nil world⟩
  | cons entry rest ih =>
    obtain ⟨deed, between, carries⟩ := carried [] entry rest world rfl (.nil world)
    let step : BootStep := ⟨entry, deed⟩
    obtain ⟨steps, last, rfl, boots⟩ : ∃ (steps : List BootStep) (last : World σ), steps.map BootStep.entry = rest ∧
        Boots app steps (between.after step.finish) last := ih fun steps next rest there split boots =>
      carried (step :: steps) next rest there (congrArg (entry :: ·) split) (.cons carries boots)
    exact ⟨step :: steps, last, rfl, .cons carries boots⟩

end Routine

end LeafHub
