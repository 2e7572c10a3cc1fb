import LeafHub.Proofs.Hub.Listing
import LeafHub.Proofs.Lifecycle.Standing

namespace LeafHub

/-- The class that an action registers. -/
def BootAction.leafClass? : BootAction → Option LeafClass
  | .registerClass leafClass => some leafClass
  | _ => none

namespace Hub

/-- The list of classes grows at its end, if at all. Only an initialisation of the hub does anything else to it. -/
def Enlists (hub after : Hub) : Prop :=
  hub.classes <+: after.classes

theorem passage_enlists : Passage Enlists where
  refl := fun hub => hub.classes.prefix_refl
  trans := List.IsPrefix.trans

theorem enlists_of_same {hub after : Hub} (same : after.classes = hub.classes) : hub.Enlists after := by
  unfold Enlists
  exact same ▸ List.prefix_refl hub.classes

theorem Requeued.enlists {hub after : Hub} (requeued : hub.Requeued after) : hub.Enlists after := by
  obtain ⟨_, _, rfl⟩ := requeued
  exact enlists_of_same rfl

theorem conduct_enlists : Conduct Enlists where
  toPassage := passage_enlists
  noted := fun _ _ _ => enlists_of_same rfl
  told := fun id happening _ hub => (requeued_told id happening hub).enlists
  filled := fun _ _ _ _ _ => enlists_of_same rfl
  counted := fun _ _ _ _ _ => enlists_of_same rfl
  flagged := fun _ _ _ => enlists_of_same rfl
  lit := fun _ _ _ _ _ => enlists_of_same rfl
  scheduled := fun hub _ _ cells delay _ => (requeued_schedule cells.scan delay hub).enlists
  pinned := fun _ _ => enlists_of_same rfl
  bussed := fun _ _ => enlists_of_same rfl
  stored := fun _ _ => enlists_of_same rfl
  waited := fun _ _ => enlists_of_same rfl

theorem regime_enlists : Regime (fun _ => True) Enlists where
  toLabour := conduct_enlists.labour
  scanned := fun _ _ _ _ _ _ => enlists_of_same rfl
  rescheduled := fun hub _ _ cells _ delay _ _ => (requeued_reschedule cells.scan delay hub).enlists
  cancelled := fun hub _ _ cells _ _ _ => (requeued_cancel cells.scan hub).enlists
  registerCommand := conduct_enlists.labour.toLogging.bindCommand fun _ _ _ _ => enlists_of_same rfl
  ledMade := fun hub id state _ _ _ => by
    obtain ⟨lines, made⟩ := run_installLed hub id state
    rw [made]
    exact enlists_of_same rfl
  keypadMade := fun hub id state _ _ _ => by
    obtain ⟨lines, made⟩ := run_installKeypad hub id state
    rw [made]
    exact enlists_of_same rfl

theorem allowsTurns_enlists : AllowsTurns (Act.Keeps Enlists) where
  look := passage_enlists.get
  log := conduct_enlists.log
  turn := conduct_enlists.takeTurn (fun _ _ _ => enlists_of_same rfl) fun _ _ _ => enlists_of_same rfl
  wait := conduct_enlists.waitUntil

theorem enlists_beginInit (id : LeafId) : Act.Keeps Enlists (beginInit id) := by
  intro hub
  obtain ⟨lines, begun⟩ := run_beginInit hub id
  rw [begun]
  exact enlists_of_same rfl

end Hub

namespace Routine

open Hub

variable {σ : Type} {app : Application σ} {world after : World σ} {action : BootAction} {deed : Deed} {steps : List BootStep}

theorem Carries.registers {leafClass : LeafClass} (carries : Carries app (.registerClass leafClass) world deed after) :
    after.hub.classes = world.hub.classes ++ [leafClass] := by
  cases carries
  obtain ⟨lines, registered⟩ := run_registerClass world.hub leafClass
  exact congrArg Hub.classes registered

section Enlists

variable (application : app.Uses (Act.Keeps Enlists))

include application

theorem enlists_called {phase : Phase} {id : LeafId} {outcome : Except Fault Unit}
    (called : (callClass phase id).Returns app world outcome after) : world.hub.Enlists after.hub :=
  called.keeps passage_enlists (fun keeps => keeps) (application.body allowsTurns_enlists)
    (regime_enlists.uses_callClass phase id)

/-- The class that an entry registers follows the classes that there were. -/
theorem Carries.enlists (carries : Carries app action world deed after) :
    world.hub.classes ++ action.leafClass?.toList <+: after.hub.classes := by
  have logging := conduct_enlists.labour.toLogging
  have others {first last : Hub} (kept : first.Enlists last) : first.classes ++ [] <+: last.classes :=
    (List.append_nil first.classes).symm ▸ kept
  cases carries with
  | registerClass leafClass =>
    have registered := Carries.registers (Carries.registerClass leafClass world : Carries app _ world _ _)
    exact registered ▸ List.prefix_refl _
  | @init id _ outcome between called =>
    have begun := enlists_beginInit id (world.after (Hub.retain id)).hub
    have ended := logging.endInit (fun _ _ _ _ => enlists_of_same rfl) id outcome between.hub
    exact others ((begun.trans (enlists_called application called)).trans ended)
  | @start id _ outcome between ready called =>
    have begun := logging.beginStart id (world.after (Hub.retain id)).hub
    have ended := logging.endStart (fun _ _ _ _ => enlists_of_same rfl) id outcome between.hub
    exact others ((begun.trans (enlists_called application called)).trans ended)
  | skip => exact others (conduct_enlists.log _ _ world.hub)
  | hook called =>
    exact others (called.keeps passage_enlists (fun keeps => keeps) (application.body allowsTurns_enlists) (application.hook _))

/-- The classes of the entries come behind those that there were, in the order of the entries. -/
theorem Boots.enlists (boots : Boots app steps world after) :
    (world.hub.classes ++ steps.filterMap (·.entry.action.leafClass?)).Sublist after.hub.classes := by
  induction boots with
  | nil => simp
  | @cons step rest world between after carries boots ih =>
    have logging := conduct_enlists.labour.toLogging
    have finished := logging.finish (fun _ _ => enlists_of_same rfl) step between.hub
    have first := (carries.enlists application).trans finished
    have split : (step :: rest).filterMap (·.entry.action.leafClass?) =
        step.entry.action.leafClass?.toList ++ rest.filterMap (·.entry.action.leafClass?) := by
      cases here : step.entry.action.leafClass? <;> simp [here]
    rw [split, ← List.append_assoc]
    exact (first.sublist.append_right _).trans ih

end Enlists

end Routine

end LeafHub
