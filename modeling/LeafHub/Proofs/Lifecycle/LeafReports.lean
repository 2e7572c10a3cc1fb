import LeafHub.Proofs.Lifecycle.Carried

namespace LeafHub

open Shell (LeafAction)

variable {σ : Type}

namespace Shell

namespace LeafAction

/-- The phase in which the class of the leaf is called. -/
def phase : LeafAction → Phase
  | .init => .init
  | .start => .start
  | .stop => .stop

/-- What is done before the class is called. -/
def opens (id : LeafId) : LeafAction → Act Unit
  | .init => Hub.beginInit id
  | .start => discard (Hub.beginStart id)
  | .stop => pure ()

/-- What is done when the class has answered. -/
def closes (id : LeafId) (outcome : Except Fault Unit) : LeafAction → Act Unit
  | .init => Hub.endInit id outcome
  | .start => Hub.endStart id outcome
  | .stop => Hub.endStop id outcome

end LeafAction

/-- The words about a leaf that there is not. -/
def unknownLeaf (name : String) : String :=
  "No leaf named '" ++ name ++ "'\n"

/-- An answer that tells a leaf that there is not from a leaf whose operation failed. -/
structure TellsApart (action : LeafAction) (name : String) (found : Option LeafId) (outcome : Except Fault Unit)
    (result : CommandResult) : Prop where
  unknown : result.output = unknownLeaf name ↔ found = none
  missed : found = none → result.code = Fault.notFound.errno
  done : found ≠ none → (result.code = 0 ↔ outcome = .ok ())
  said : outcome = .ok () → result.output = action.finished
  failed : found ≠ none → ∀ fault, outcome = .error fault → result = ⟨fault.errno, "failed\n"⟩

theorem unknownLeaf_ne {name text : String} (other : text.toList.head? ≠ some 'N') : text ≠ unknownLeaf name := by
  rintro rfl
  have first : (unknownLeaf name).toList.head? = some 'N' := by
    show ("No leaf named '" ++ name ++ "'\n").toList.head? = some 'N'
    rw [String.append_assoc, String.toList_append]
    rfl
  exact other first

theorem leafAnswer_notFound (action : LeafAction) (name : String) :
    leafAnswer action name (.error .notFound) = ⟨Fault.notFound.errno, unknownLeaf name⟩ :=
  rfl

theorem leafAnswer_error (action : LeafAction) (name : String) {fault : Fault} (other : fault ≠ .notFound) :
    leafAnswer action name (.error fault) = ⟨fault.errno, "failed\n"⟩ := by
  cases fault with
  | notFound => exact absurd rfl other
  | _ => rfl

variable {action : LeafAction} {name : String}

theorem tellsApart_none : TellsApart action name none (.error .notFound) (leafAnswer action name (.error .notFound)) where
  unknown := ⟨fun _ => rfl, fun _ => rfl⟩
  missed := fun _ => rfl
  done := fun known => absurd rfl known
  said := fun good => nomatch good
  failed := fun known => absurd rfl known

theorem tellsApart_some_iff {id : LeafId} {outcome : Except Fault Unit} :
    TellsApart action name (some id) outcome (leafAnswer action name outcome) ↔ outcome ≠ .error .notFound := by
  constructor
  · -- the answer has the words for a leaf that there is not
    rintro tells rfl
    exact nomatch tells.unknown.mp rfl
  · intro other
    cases outcome with
    | ok =>
      have apart : action.finished ≠ unknownLeaf name := unknownLeaf_ne (by cases action <;> decide)
      exact
        { unknown := ⟨fun same => absurd same apart, nofun⟩
          missed := nofun
          done := fun _ => ⟨fun _ => rfl, fun _ => rfl⟩
          said := fun _ => rfl
          failed := nofun }
    | error fault =>
      rw [leafAnswer_error action name fun same => other (congrArg _ same)]
      have apart : "failed\n" ≠ unknownLeaf name := unknownLeaf_ne (by decide)
      exact
        { unknown := ⟨fun same => absurd same apart, nofun⟩
          missed := nofun
          done := fun _ => ⟨fun zero => absurd zero (Int.ne_of_lt fault.errno_neg), nofun⟩
          said := nofun
          failed := by
            rintro _ _ ⟨⟩
            rfl }

end Shell

namespace Routine

open Hub Shell

/-- A leaf is looked up by its name, and its class is called. -/
inductive Driven (app : Application σ) (action : LeafAction) (name : String) (world : World σ) : Except Fault Unit → World σ → Prop
  | unknown : world.hub.findLeaf name = none → Driven app action name world (.error .notFound) world
  | unready {id} : action = .start → world.hub.findLeaf name = some id → (world.hub.leaf id).ready = false →
      Driven app action name world (.error .notReady) (world.after (Hub.log .warn s!"{name} was never ready, not starting"))
  | called {id outcome between} : world.hub.findLeaf name = some id → (action = .start → (world.hub.leaf id).ready = true) →
      (callClass action.phase id).Returns app ((world.after (Hub.retain id)).after (action.opens id)) outcome between →
      Driven app action name world outcome ((between.after (action.closes id outcome)).after (Hub.release id))

variable {app : Application σ} {action : LeafAction} {name : String} {world after : World σ} {id : LeafId}
  {outcome : Except Fault Unit} {result : CommandResult}

theorem driven_iff_of_none (absent : world.hub.findLeaf name = none) :
    Driven app action name world outcome after ↔ outcome = .error .notFound ∧ after = world := by
  constructor
  · intro driven
    cases driven with
    | unknown => exact ⟨rfl, rfl⟩
    | unready _ found | called found => exact nomatch absent.symm.trans found
  · rintro ⟨rfl, rfl⟩
    exact .unknown absent

theorem driven_iff_of_unready (found : world.hub.findLeaf name = some id) (unready : (world.hub.leaf id).ready = false) :
    Driven app .start name world outcome after ↔
      outcome = .error .notReady ∧ after = world.after (Hub.log .warn s!"{name} was never ready, not starting") := by
  constructor
  · intro driven
    cases driven with
    | unknown absent => exact nomatch found.symm.trans absent
    | unready => exact ⟨rfl, rfl⟩
    | called other ready =>
      cases found.symm.trans other
      exact nomatch unready.symm.trans (ready rfl)
  · rintro ⟨rfl, rfl⟩
    exact .unready rfl found unready

theorem driven_iff_of_some (found : world.hub.findLeaf name = some id)
    (startable : action = .start → (world.hub.leaf id).ready = true) :
    Driven app action name world outcome after ↔ ∃ between,
      (callClass action.phase id).Returns app ((world.after (Hub.retain id)).after (action.opens id)) outcome between ∧
        (between.after (action.closes id outcome)).after (Hub.release id) = after := by
  constructor
  · intro driven
    cases driven with
    | unknown absent => exact nomatch found.symm.trans absent
    | unready start other unready =>
      cases found.symm.trans other
      exact nomatch unready.symm.trans (startable start)
    | called other _ here =>
      cases found.symm.trans other
      exact ⟨_, here, rfl⟩
  · rintro ⟨between, here, rfl⟩
    exact .called found startable here

theorem returns_driveLeaf_iff :
    (driveLeaf action name).Returns app world outcome after ↔ Driven app action name world outcome after := by
  cases found : world.hub.findLeaf name with
  | none =>
    have missed : (driveLeaf action name).Returns app world outcome after ↔
        (pure (.error .notFound) : Routine σ (Except Fault Unit)).Returns app world outcome after := by
      cases action <;> exact returns_get_bind_iff.trans (by rw [found])
    exact missed.trans (returns_pure_iff.trans (driven_iff_of_none found).symm)
  | some id =>
    cases action with
    | init =>
      have startable : LeafAction.init = .start → (world.hub.leaf id).ready = true := nofun
      refine returns_get_bind_iff.trans ?_
      rw [found]
      exact returns_initLeaf_iff.trans (driven_iff_of_some found startable).symm
    | start =>
      refine returns_get_bind_iff.trans ?_
      rw [found]
      dsimp only
      cases ready : (world.hub.leaf id).ready with
      | true =>
        have startable : LeafAction.start = .start → (world.hub.leaf id).ready = true := fun _ => ready
        rw [if_pos rfl]
        exact (returns_startLeaf_iff ready).trans (driven_iff_of_some found startable).symm
      | false =>
        rw [if_neg Bool.false_ne_true]
        exact returns_act_bind_iff.trans (returns_pure_iff.trans (driven_iff_of_unready found ready).symm)
    | stop =>
      have startable : LeafAction.stop = .start → (world.hub.leaf id).ready = true := nofun
      refine returns_get_bind_iff.trans ?_
      rw [found]
      exact returns_stopLeaf_iff.trans (driven_iff_of_some found startable).symm

/-- The world in which the shell has taken note of the words. -/
def heard (action : LeafAction) (name : String) (world : World σ) : World σ :=
  world.after (Hub.log .debug s!"shell {Text.quotedList [action.name, name]}")

theorem returns_execute_iff : (execute [action.name, name]).Returns app world result after ↔
    ∃ outcome, Driven app action name (heard action name world) outcome after ∧ result = leafAnswer action name outcome := by
  have command : (execute [action.name, name]).Returns app world result after ↔
      (shellLeafAction action [name]).Returns app (heard action name world) result after := by
    cases action <;> exact returns_act_bind_iff
  rw [command, shellLeafAction, returns_bind_iff]
  simp only [returns_driveLeaf_iff, returns_pure_iff]
  constructor
  · rintro ⟨outcome, _, driven, rfl, rfl⟩
    exact ⟨outcome, driven, rfl⟩
  · rintro ⟨outcome, driven, rfl⟩
    exact ⟨outcome, after, driven, rfl, rfl⟩

/-- A leaf is driven when its class answers. -/
theorem driven_of_answers (answers : ∀ id, world.hub.findLeaf name = some id → ∀ before : World σ,
    ∃ outcome between, (callClass action.phase id).Returns app before outcome between) :
    ∃ outcome after, Driven app action name world outcome after := by
  cases found : world.hub.findLeaf name with
  | none => exact ⟨_, _, .unknown found⟩
  | some id =>
    by_cases startable : action = .start → (world.hub.leaf id).ready = true
    · obtain ⟨outcome, between, called⟩ := answers id found _
      exact ⟨_, _, .called found startable called⟩
    · obtain ⟨start, unready⟩ := Classical.not_imp.mp startable
      exact ⟨_, _, .unready start found (eq_false_of_ne_true unready)⟩

/-- The shell answers to an init, a start and a stop when the class of the leaf does. It tells a leaf that there is not from
one whose operation failed, unless the class itself answered that something was not found: then the shell says that there is
no such leaf. -/
theorem leaf_action_reports (app : Application σ) (world : World σ) (action : LeafAction) (name : String) :
    ((∀ id, world.hub.findLeaf name = some id → ∀ before : World σ,
        ∃ outcome between, (callClass action.phase id).Returns app before outcome between) →
      ∃ result after, (execute [action.name, name]).Returns app world result after) ∧
    ∀ result after, (execute [action.name, name]).Returns app world result after →
      ∃ outcome, Driven app action name (heard action name world) outcome after ∧
        (TellsApart action name (world.hub.findLeaf name) outcome result ↔
          ∀ id, world.hub.findLeaf name = some id → outcome ≠ .error .notFound) ∧
        (outcome = .error .notFound → result = ⟨Fault.notFound.errno, unknownLeaf name⟩) := by
  constructor
  · intro answers
    obtain ⟨outcome, after, driven⟩ := @driven_of_answers σ app action name (heard action name world) answers
    exact ⟨_, after, returns_execute_iff.mpr ⟨outcome, driven, rfl⟩⟩
  · intro result after returns
    obtain ⟨outcome, driven, rfl⟩ := returns_execute_iff.mp returns
    refine ⟨outcome, driven, ?_, ?_⟩
    · cases found : world.hub.findLeaf name with
      | none =>
        have absent : (heard action name world).hub.findLeaf name = none := found
        obtain ⟨rfl, _⟩ := (driven_iff_of_none absent).mp driven
        exact ⟨fun _ => nofun, fun _ => tellsApart_none⟩
      | some id =>
        rw [tellsApart_some_iff]
        exact ⟨fun other _ _ => other, fun other => other id rfl⟩
    · rintro rfl
      exact leafAnswer_notFound action name

/-- Every class of the application fails in every phase. -/
def failing (fault : Fault) : Application Unit :=
  { Application.silent with phase := fun _ _ _ => return .error fault }

/-- A leaf of such a class, listed and ready. -/
def failingWorld : World Unit where
  hub := { fresh .standard with
    leafList := [0]
    leaves := ⟨#[{ Leaf.fresh ⟨"c", none, .custom 0⟩ "a" none with ready := true }]⟩ }
  own := ()

theorem leaf_action_reports_failing : ∃ outcome after,
    (execute ["init", "a"]).Returns (failing .io) failingWorld ⟨-5, "failed\n"⟩ after ∧
      Driven (failing .io) .init "a" (heard .init "a" failingWorld) outcome after ∧
      TellsApart .init "a" (some 0) outcome ⟨-5, "failed\n"⟩ := by
  have ended : ((execute ["init", "a"]).run (failing .io) 40 failingWorld).1.answer? = some ⟨-5, "failed\n"⟩ := by
    decide +kernel
  have returns := run_eq_of_answer? ended
  obtain ⟨outcome, driven, tells, misread⟩ := (leaf_action_reports (failing .io) failingWorld .init "a").2 _ _ ⟨40, returns⟩
  have found : failingWorld.hub.findLeaf "a" = some 0 := by decide +kernel
  rw [found] at tells
  refine ⟨outcome, _, ⟨40, returns⟩, driven, tells.mpr fun _ _ same => ?_⟩
  exact absurd (congrArg CommandResult.code (misread same)) (by decide)

/-- A leaf that is listed, and of which the shell says that it is not. -/
theorem known_leaf_reported_unknown : failingWorld.hub.findLeaf "a" = some 0 ∧ ∀ action : LeafAction, ∃ after,
    Driven (failing .notFound) action "a" (heard action "a" failingWorld) (.error .notFound) after ∧
      (execute [action.name, "a"]).Returns (failing .notFound) failingWorld ⟨-2, "No leaf named 'a'\n"⟩ after ∧
      ¬TellsApart action "a" (some 0) (.error .notFound) ⟨-2, "No leaf named 'a'\n"⟩ := by
  have found : failingWorld.hub.findLeaf "a" = some 0 := by decide +kernel
  refine ⟨found, fun action => ?_⟩
  have listed : (heard action "a" failingWorld).hub.findLeaf "a" = some 0 := found
  let world := ((heard action "a" failingWorld).after (retain 0)).after (action.opens 0)
  have own : (world.hub.leaf 0).leafClass.callbacks = .custom 0 := by cases action <;> decide +kernel
  have called : (callClass action.phase 0).Returns (failing .notFound) world (.error .notFound) world := by
    rw [returns_callClass_iff, own]
    exact returns_call_iff.mpr (returns_pure_iff.mpr ⟨rfl, rfl⟩)
  have driven := Driven.called listed (fun _ => rfl) called
  have answer := returns_execute_iff.mpr ⟨_, driven, rfl⟩
  exact ⟨_, driven, answer, fun tells => tellsApart_some_iff.mp tells rfl⟩

end Routine

end LeafHub
