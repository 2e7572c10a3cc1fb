import LeafHub.Proofs.Hub.LeafFrame
import LeafHub.Proofs.Routine.Uses

namespace LeafHub

section Listing

open Hub

variable {R : Hub → Hub → Prop} {id : LeafId}

/-- What an init does before it takes the flags down. -/
theorem Hub.listed_beginInit (passage : Passage R) (logged : ∀ level line, Act.Keeps R (log level line))
    (registered : Act.Keeps R (registerLeaf id)) (hub : Hub) : ∃ listed, R hub listed ∧
      ((beginInit id).run hub).2 = ((setLeaf id { hub.leaf id with ready := false, running := false }).run listed).2 := by
  have announced : Act.Keeps R (do
      log .debug s!"sys_init {(hub.leaf id).name}"
      log .info s!"NOTICE >INIT {(hub.leaf id).leafClass.name}/{(hub.leaf id).name}"
      registerLeaf id) :=
    passage.bind (logged _ _) fun _ => passage.bind (logged _ _) fun _ => registered
  exact ⟨_, announced hub, rfl⟩

theorem Hub.leaves_registerLeaf (id : LeafId) (hub : Hub) : ((registerLeaf id).run hub).2.leaves = hub.leaves :=
  Cataloguing.leaves.registerLeaf id hub

theorem Hub.leaves_beginInit (id : LeafId) (hub : Hub) : ((beginInit id).run hub).2.leaves =
    hub.leaves.set id { hub.leaf id with ready := false, running := false } := by
  obtain ⟨listed, same, began⟩ := listed_beginInit Passage.leaves (fun _ _ _ => rfl) (leaves_registerLeaf id) hub
  rw [began]
  exact congrArg (Pool.set · id _) same

end Listing

namespace Logging

variable {R : Hub → Hub → Prop} (logging : Logging R)
  (marked : ∀ hub id ready running, R hub { hub with leaves := hub.leaves.set id { hub.leaf id with ready, running } })

include logging

theorem beginStart (id : LeafId) : Act.Keeps R (Hub.beginStart id) := by
  unfold Hub.beginStart
  refine logging.bind logging.get fun hub => ?_
  refine logging.bind (logging.logged _ _) fun _ => ?_
  split
  · exact logging.bind (logging.logged _ _) fun _ => logging.pure _
  · exact logging.pure _

include marked

theorem endInit (id : LeafId) (outcome : Except Fault Unit) : Act.Keeps R (Hub.endInit id outcome) := by
  intro hub
  cases outcome with
  | ok => exact logging.trans (logging.logged _ _ hub) (marked _ id true (hub.leaf id).running)
  | error fault => exact logging.logged _ _ hub

theorem endStart (id : LeafId) (outcome : Except Fault Unit) : Act.Keeps R (Hub.endStart id outcome) := by
  intro hub
  cases outcome with
  | ok => exact logging.trans (marked hub id (hub.leaf id).ready true) (logging.logged _ _ _)
  | error fault => exact logging.logged _ _ hub

theorem endStop (id : LeafId) (outcome : Except Fault Unit) : Act.Keeps R (Hub.endStop id outcome) := by
  intro hub
  cases outcome with
  | ok => exact logging.trans (marked hub id (hub.leaf id).ready false) (logging.logged _ _ _)
  | error fault => exact logging.refl hub

theorem beginInit {id : LeafId} (registered : Act.Keeps R (Hub.registerLeaf id)) : Act.Keeps R (Hub.beginInit id) := by
  intro hub
  have both : Passage fun hub after => R hub after ∧ after.leaves = hub.leaves :=
    ⟨fun hub => ⟨logging.refl hub, rfl⟩,
      fun first second => ⟨logging.trans first.1 second.1, second.2.trans first.2⟩⟩
  obtain ⟨listed, ⟨kept, same⟩, began⟩ := Hub.listed_beginInit both (fun level line hub => ⟨logging.logged level line hub, rfl⟩)
    (fun hub => ⟨registered hub, Hub.leaves_registerLeaf id hub⟩) hub
  -- the leaf that is put back is the one from before it was listed
  have leaf : listed.leaf id = hub.leaf id := congrArg (Pool.get · id) same
  rw [began, ← leaf]
  exact logging.trans kept (marked listed id false false)

end Logging

namespace Registering

variable {R : Hub → Hub → Prop} (lists : Registering R)

include lists

theorem bootInitialise : Act.Keeps R Routine.bootInitialise := by
  unfold Routine.bootInitialise
  refine lists.bind lists.get fun hub => ?_
  split
  · exact lists.pure _
  · refine lists.bind lists.initialise fun outcome => ?_
    split <;> exact lists.pure _

theorem shellBoot : Act.Keeps R Shell.boot := by
  refine lists.bind lists.initialise fun outcome => ?_
  split <;> exact lists.pure _

end Registering

namespace Routine

variable {σ : Type} {R : Hub → Hub → Prop} {typed : String → Prop} {fits : ∀ {α : Type}, Routine σ α → Prop}

/-- What a class of these callbacks does when it is called. -/
def calls (phase : Phase) (id : LeafId) : Callbacks → Routine σ (Except Fault Unit)
  | .inert => return .ok ()
  | .led => (Hub.ledPhase phase id).run
  | .keypad => (Hub.keypadPhase phase id).run
  | .settings => (Hub.settingsPhase phase id).run
  | .custom behaviour => ofCall (.phase behaviour phase id)

theorem callClass_eq (phase : Phase) (id : LeafId) : (callClass phase id : Routine σ (Except Fault Unit)) =
    (liftM (get : Act Hub) >>= fun hub => calls phase id (hub.leaf id).leafClass.callbacks) := rfl

/-- The operations on leaves fit, and the shell does while only certain names are typed to it for values. -/
structure Lives (typed : String → Prop) (fits : ∀ {α : Type}, Routine σ α → Prop) : Prop where
  init : ∀ leaf, fits (initLeaf leaf)
  start : ∀ leaf, fits (startLeaf leaf)
  startNamed : ∀ name, fits (Routine.start name)
  stopNamed : ∀ name, fits (Routine.stop name)
  preSleep : fits Routine.preSleep
  postSleep : fits Routine.postSleep
  boot : ∀ table, fits (Routine.boot table)
  shell : ∀ line, (∀ name words, Text.words line = "value" :: "set" :: name :: words → typed name) →
    fits (executeLine line)

/-- The parts of the operations on leaves fit, where the relation is one that the steps in between stay within. -/
structure Parts (R : Hub → Hub → Prop) (typed : String → Prop) (fits : ∀ {α : Type}, Routine σ α → Prop) : Prop
    extends Composes fits, Logging R where
  quiet : ∀ {β : Type} {act : Act β}, act.Keeps R → fits (liftM act)
  registerClass : ∀ leafClass, fits (liftM (Hub.registerClass leafClass))
  bootInitialise : fits (liftM Routine.bootInitialise)
  shellBoot : fits (liftM Shell.boot)
  retained : ∀ id, Act.Keeps R (Hub.retain id)
  released : ∀ id, Act.Keeps R (Hub.release id)
  valued : ∀ name words, typed name → Act.Keeps R (Shell.setValue name words)
  init : ∀ id, fits (initLeaf id)
  start : ∀ id, fits (startLeaf id)
  stop : ∀ id, fits (stopLeaf id)
  sleep : ∀ id, fits (callClass .preSleep id)
  wake : ∀ id, fits (callClass .postSleep id)
  command : ∀ command args, fits (runCommand command args)

namespace Parts

variable (parts : Parts R typed fits)

include parts

theorem look : fits (get : Routine σ Hub) :=
  parts.quiet parts.get

theorem log (level : Level) (line : String) : fits (liftM (Hub.log level line) : Routine σ Unit) :=
  parts.quiet (parts.logged level line)

theorem startNamed (name : String) : fits (Routine.start name) := by
  unfold Routine.start
  refine parts.bound parts.look fun hub => ?_
  split
  · exact parts.answered _
  · split
    · exact parts.start _
    · exact parts.bound (parts.log _ _) fun _ => parts.answered _

theorem stopNamed (name : String) : fits (Routine.stop name) := by
  unfold Routine.stop
  refine parts.bound parts.look fun hub => ?_
  split
  · exact parts.answered _
  · exact parts.stop _

theorem announce {phase : Phase} (calls : ∀ id, fits (callClass phase id)) : fits (Routine.announce phase) := by
  have each (ids : List LeafId) (last : Except Fault Unit) : fits (callEach phase ids last) := by
    induction ids generalizing last with
    | nil => exact parts.answered _
    | cons id rest ih =>
      unfold callEach
      refine parts.bound (calls id) fun outcome => ?_
      split
      · exact parts.bound (parts.quiet (parts.released id)) fun _ => ih _
      · refine parts.bound parts.look fun hub => ?_
        refine parts.bound (parts.log _ _) fun _ => ?_
        exact parts.bound (parts.quiet (parts.released id)) fun _ => ih _
  unfold Routine.announce
  refine parts.bound parts.look fun hub => ?_
  dsimp only
  refine parts.bound (parts.quiet (parts.each parts.retained _)) fun _ => ?_
  exact each _ _

section Boot

theorem bootAction (action : BootAction) : fits (Routine.bootAction action) := by
  cases action with
  | registerClass leafClass =>
    exact parts.bound (parts.registerClass leafClass) fun _ => parts.answered _
  | initLeaf id => exact parts.init id
  | startLeaf id =>
    unfold Routine.bootAction
    refine parts.bound parts.look fun hub => ?_
    dsimp only
    split
    · exact parts.start id
    · exact parts.bound (parts.log _ _) fun _ => parts.answered _
  | hook behaviour => exact parts.called _

theorem bootEntries (entries : List BootEntry) (report : BootReport) : fits (Routine.bootEntries entries report) := by
  induction entries generalizing report with
  | nil => exact parts.answered _
  | cons entry rest ih =>
    unfold Routine.bootEntries
    refine parts.bound (parts.bootAction _) fun outcome => ?_
    refine parts.bound (parts.quiet (parts.eachOption parts.released _)) fun _ => ?_
    dsimp only
    split
    · exact ih _
    · exact parts.bound (parts.log _ _) fun _ => ih _

theorem boot (table : BootTable) : fits (Routine.boot table) := by
  have held (entry : BootEntry) : Act.Keeps R (entry.action.leaf?.forM Hub.retain : Act PUnit) :=
    parts.eachOption parts.retained _
  refine parts.bound (parts.quiet (parts.each held _)) fun _ => ?_
  refine parts.bound parts.bootInitialise fun report => ?_
  refine parts.bound (parts.log _ _) fun _ => ?_
  refine parts.bound (parts.bootEntries _ _) fun report => ?_
  exact parts.bound (parts.log _ _) fun _ => parts.answered _

end Boot

section Shell

theorem shellLeafAction (action : Shell.LeafAction) (args : List String) :
    fits (Routine.shellLeafAction action args) := by
  have driven (name : String) : fits (driveLeaf action name) := by
    cases action with
    | init =>
      refine parts.bound parts.look fun hub => ?_
      split
      · exact parts.init _
      · exact parts.answered _
    | start => exact parts.startNamed name
    | stop => exact parts.stopNamed name
  unfold Routine.shellLeafAction
  split
  · exact parts.bound (driven _) fun _ => parts.answered _
  · exact parts.answered _

theorem shellLeaf (args : List String) : fits (Routine.shellLeaf args) := by
  unfold Routine.shellLeaf
  refine parts.bound parts.look fun hub => ?_
  split
  · exact parts.answered _
  · split
    · exact parts.command _ _
    · exact parts.answered _

theorem shellValue (args : List String) (fine : ∀ name words, args = "set" :: name :: words → typed name) :
    Act.Keeps R (Shell.value args) := by
  unfold Shell.value
  refine parts.bind parts.get fun hub => ?_
  split
  · exact parts.pure _
  · exact parts.pure _
  · exact parts.pure _
  · split <;> exact parts.pure _
  · exact parts.valued _ _ (fine _ _ rfl)
  · exact parts.pure _

theorem execute (args : List String) (fine : ∀ name words, args = "value" :: "set" :: name :: words → typed name) :
    fits (Routine.execute args) := by
  refine parts.bound (parts.log _ _) fun _ => ?_
  split
  · exact parts.answered _
  · exact parts.bound parts.look fun _ => parts.answered _
  · exact parts.shellBoot
  · exact parts.shellLeafAction .init _
  · exact parts.shellLeafAction .start _
  · exact parts.shellLeafAction .stop _
  · exact parts.quiet (parts.shellValue _ fun name words same => fine name words (congrArg _ same))
  · exact parts.shellLeaf _
  · refine parts.bound parts.look fun hub => ?_
    split
    · exact parts.command _ _
    · exact parts.answered _

end Shell

theorem lives : Lives typed fits where
  init := parts.init
  start := parts.start
  startNamed := parts.startNamed
  stopNamed := parts.stopNamed
  preSleep := parts.announce parts.sleep
  postSleep := parts.announce parts.wake
  boot := parts.boot
  shell := fun line fine => parts.execute (Text.words line) fine

end Parts

theorem uses_holding {α : Type} {allowed : ∀ {β : Type}, Act β → Prop} {ids : List LeafId} {body : Routine σ α}
    (retained : allowed (ids.forM Hub.retain : Act Unit)) (released : allowed (ids.forM Hub.release : Act Unit))
    (uses : body.Uses allowed) : (Routine.holding ids body).Uses allowed := by
  unfold Routine.holding
  refine uses_bind (uses_act retained) fun _ => ?_
  refine uses_bind uses fun answer => ?_
  exact uses_bind (uses_act released) fun _ => uses_pure _

/-- The acts of an init, a start and a stop are allowed, and so is what the classes and the commands of leaves do. -/
structure Allows (σ : Type) (R : Hub → Hub → Prop) (typed : String → Prop) (allowed : ∀ {β : Type}, Act β → Prop) : Prop
    extends Logging R where
  quiet : ∀ {β : Type} {act : Act β}, act.Keeps R → allowed act
  registerClass : ∀ leafClass, allowed (Hub.registerClass leafClass)
  bootInitialise : allowed Routine.bootInitialise
  shellBoot : allowed Shell.boot
  retained : ∀ id, Act.Keeps R (Hub.retain id)
  released : ∀ id, Act.Keeps R (Hub.release id)
  valued : ∀ name words, typed name → Act.Keeps R (Shell.setValue name words)
  beginInit : ∀ id, allowed (Hub.beginInit id)
  endInit : ∀ id outcome, allowed (Hub.endInit id outcome)
  endStart : ∀ id outcome, allowed (Hub.endStart id outcome)
  endStop : ∀ id outcome, allowed (Hub.endStop id outcome)
  calls : ∀ phase id, (callClass phase id : Routine σ (Except Fault Unit)).Uses allowed
  commands : ∀ command args, (runCommand command args : Routine σ CommandResult).Uses allowed

namespace Allows

variable {allowed : ∀ {β : Type}, Act β → Prop} (allows : Allows σ R typed allowed)

include allows

theorem holding {α : Type} {ids : List LeafId} {body : Routine σ α} (uses : body.Uses allowed) :
    (Routine.holding ids body).Uses allowed :=
  uses_holding (allows.quiet (allows.each allows.retained ids)) (allows.quiet (allows.each allows.released ids)) uses

theorem initLeaf (id : LeafId) : (Routine.initLeaf id : Routine σ (Except Fault Unit)).Uses allowed := by
  refine allows.holding ?_
  refine uses_bind (uses_act (allows.beginInit id)) fun _ => ?_
  refine uses_bind (allows.calls .init id) fun outcome => ?_
  exact uses_bind (uses_act (allows.endInit id outcome)) fun _ => uses_pure _

theorem startLeaf (id : LeafId) : (Routine.startLeaf id : Routine σ (Except Fault Unit)).Uses allowed := by
  refine allows.holding ?_
  refine uses_bind (uses_act (allows.quiet (allows.toLogging.beginStart id))) fun ready => ?_
  split
  · refine uses_bind (allows.calls .start id) fun outcome => ?_
    exact uses_bind (uses_act (allows.endStart id outcome)) fun _ => uses_pure _
  · exact uses_pure _

theorem stopLeaf (id : LeafId) : (Routine.stopLeaf id : Routine σ (Except Fault Unit)).Uses allowed := by
  refine allows.holding ?_
  refine uses_bind (allows.calls .stop id) fun outcome => ?_
  exact uses_bind (uses_act (allows.endStop id outcome)) fun _ => uses_pure _

theorem parts : Parts R typed (Uses allowed : ∀ {α : Type}, Routine σ α → Prop) where
  toComposes := composes_uses
  toLogging := allows.toLogging
  quiet := fun keeps => uses_act (allows.quiet keeps)
  registerClass := fun leafClass => uses_act (allows.registerClass leafClass)
  bootInitialise := uses_act allows.bootInitialise
  shellBoot := uses_act allows.shellBoot
  retained := allows.retained
  released := allows.released
  valued := allows.valued
  init := allows.initLeaf
  start := allows.startLeaf
  stop := allows.stopLeaf
  sleep := allows.calls .preSleep
  wake := allows.calls .postSleep
  command := allows.commands

end Allows

theorem Lives.allowsLife {allowed : ∀ {β : Type}, Act β → Prop}
    (lives : Lives typed (Uses allowed : ∀ {α : Type}, Routine σ α → Prop)) (all : ∀ name, typed name) :
    AllowsLife σ allowed where
  init := lives.init
  start := lives.start
  startNamed := lives.startNamed
  stopNamed := lives.stopNamed
  preSleep := lives.preSleep
  postSleep := lives.postSleep
  boot := lives.boot
  shell := fun line => lives.shell line fun name _ _ => all name

end Routine

section Regime

open Routine

variable {σ : Type} {R : Hub → Hub → Prop}

namespace Regime

variable (regime : Regime (fun _ => True) R)

include regime

/-- A class does what the hub's own operations do, or calls the application. -/
theorem uses_callClass (phase : Phase) (id : LeafId) :
    (callClass phase id : Routine σ (Except Fault Unit)).Uses (Act.Keeps R) := by
  unfold callClass
  refine uses_bind (uses_act regime.get) fun hub => ?_
  split
  · exact uses_pure _
  · exact uses_act (regime.ledPhase trivial phase)
  · exact uses_act (regime.keypadPhase trivial phase)
  · exact uses_act (regime.settingsPhase phase id)
  · exact uses_ofCall _

theorem uses_runCommand (command : Command) (args : List String) :
    (runCommand command args : Routine σ CommandResult).Uses (Act.Keeps R) := by
  unfold runCommand
  split
  · exact uses_pure _
  · exact uses_act (regime.ledCommand trivial args)
  · exact uses_act (regime.keypadCommand trivial args)
  · exact uses_act (regime.settingsLeafCommand _ args)
  · exact uses_ofCall _

end Regime

/-- A relation that the whole life of leaves stays within. -/
structure Lifetime (R : Hub → Hub → Prop) : Prop extends Regime (fun _ => True) R where
  initialise : Attempt.Keeps R Hub.initialise
  registerClass : ∀ leafClass, Act.Keeps R (Hub.registerClass leafClass)
  registerLeaf : ∀ id, Act.Keeps R (Hub.registerLeaf id)
  retained : ∀ id, Act.Keeps R (Hub.retain id)
  released : ∀ id, Act.Keeps R (Hub.release id)
  valued : ∀ name words, Act.Keeps R (Shell.setValue name words)
  marked : ∀ hub id ready running,
    R hub { hub with leaves := hub.leaves.set id { hub.leaf id with ready, running } }

namespace Lifetime

variable (lifetime : Lifetime R)

include lifetime

theorem registering : Registering R where
  toLogging := lifetime.toLogging
  initialise := lifetime.initialise
  registerClass := lifetime.registerClass

theorem beginInit (id : LeafId) : Act.Keeps R (Hub.beginInit id) :=
  lifetime.registering.beginInit lifetime.marked (lifetime.registerLeaf id)

theorem allows : Allows σ R (fun _ => True) (Act.Keeps R) where
  toLogging := lifetime.toLogging
  quiet := id
  registerClass := lifetime.registerClass
  bootInitialise := lifetime.registering.bootInitialise
  shellBoot := lifetime.registering.shellBoot
  retained := lifetime.retained
  released := lifetime.released
  valued := fun name words _ => lifetime.valued name words
  beginInit := lifetime.beginInit
  endInit := lifetime.registering.endInit lifetime.marked
  endStart := lifetime.registering.endStart lifetime.marked
  endStop := lifetime.registering.endStop lifetime.marked
  calls := lifetime.uses_callClass
  commands := lifetime.uses_runCommand

theorem allowsLife : AllowsLife σ (Act.Keeps R) :=
  lifetime.allows.parts.lives.allowsLife fun _ => trivial

end Lifetime

/-- A frame that the marks of a leaf may change within. -/
theorem Frame.lifetime (frame : Frame R) (marked : ∀ hub id ready running,
    R hub { hub with leaves := hub.leaves.set id { hub.leaf id with ready, running } }) : Lifetime R where
  toRegime := frame.regime
  initialise := frame.initialise
  registerClass := frame.registerClass
  registerLeaf := frame.registerLeaf
  retained := frame.retained
  released := frame.released
  valued := frame.setValue
  marked := marked

end Regime

end LeafHub
