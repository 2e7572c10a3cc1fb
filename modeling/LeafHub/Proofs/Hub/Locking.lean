import Mathlib.Logic.Function.Basic
import LeafHub.Proofs.Hub.Listing
import LeafHub.Proofs.Lifecycle.Flags

namespace LeafHub.Hub

/-- The lists that are taken to initialise a hub. -/
inductive Roll where
  | classes
  | leaves
  deriving DecidableEq

/-- Which lists somebody holds. -/
abbrev RollHolds := Roll → Bool

/-- An attempt of which others see what it holds. -/
abbrev Locked := ExceptT Fault (StateT RollHolds Act)

/-- What the attempt answers, what is held after it, and the hub after it. -/
def Locked.exec {α : Type} (attempt : Locked α) (holds : RollHolds) (hub : Hub) : (Except Fault α × RollHolds) × Hub :=
  (attempt.run.run holds).run hub

theorem Locked.exec_bind {α β : Type} (attempt : Locked α) (next : α → Locked β) (holds : RollHolds) (hub : Hub) :
    Locked.exec (attempt >>= next) holds hub = match attempt.exec holds hub with
      | ((.ok answer, left), after) => (next answer).exec left after
      | ((.error fault, left), after) => ((.error fault, left), after) := by
  show (((ExceptT.bindCont next (attempt.exec holds hub).1.1).run (attempt.exec holds hub).1.2).run
    (attempt.exec holds hub).2) = _
  rcases attempt.exec holds hub with ⟨⟨answer | fault, left⟩, after⟩ <;> rfl

theorem Locked.exec_outcome (body : Locked Unit) (holds : RollHolds) (hub : Hub) :
    Locked.exec (ExceptT.lift body.run) holds hub =
      ((.ok (body.exec holds hub).1.1, (body.exec holds hub).1.2), (body.exec holds hub).2) := rfl

/-- Somebody holds the list already. -/
def refuse : Locked Unit := do
  log .error "registry mutex is held, that's impossible"
  throw .lockTimeout

/-- Does something with a list in hand, and lets go of the list however that ends. -/
def inHand (roll : Roll) (body : Locked Unit) : Locked Unit := do
  modifyThe RollHolds fun holds => Function.update holds roll true
  let outcome ← ExceptT.lift body.run
  modifyThe RollHolds fun holds => Function.update holds roll false
  MonadExcept.ofExcept outcome

/-- Takes a list for as long as something is done, if nobody holds it. -/
def withRoll (roll : Roll) (body : Locked Unit) : Locked Unit := do
  if (← getThe RollHolds) roll then refuse else inHand roll body

/-- Empties both lists while it has them in hand. -/
def emptyRolls : Locked Unit :=
  withRoll .classes (withRoll .leaves (modifyThe Hub fun hub => { hub with classes := [], leafList := [] }))

/-- Works out the identity. -/
def identify : Locked Unit := do
  let identity := Identity.ofThisMachine (← getThe Hub).config.nameBase.text
  log .info s!"NOTICE Hardware id is '{identity.hex}' [{identity.short}]"
  modifyThe Hub fun hub => { hub with identity, initialised := true }
  log .info "registry initialise OK"

/-- As `initialise`, where somebody may hold either list. -/
def lockedInitialise : Locked Unit := do
  log .info "registry initialise"
  emptyRolls
  identify

/-- What the shell answers when a hub was initialised so. -/
def shellAnswer : Except Fault Unit → CommandResult
  | .ok () => .ofText "booted\n"
  | .error fault => ⟨fault.errno, "failed\n"⟩

/-- The report of a boot before its first entry when the hub was initialised so. -/
def openingReport : Except Fault Unit → BootReport
  | .ok () => .empty
  | .error fault => BootReport.empty.fail "initialise" fault

/-- As `Shell.boot`, where somebody may hold either list. -/
def lockedShellBoot : StateT RollHolds Act CommandResult := do
  return shellAnswer (← lockedInitialise.run)

/-- As `Routine.bootInitialise`, where somebody may hold either list. -/
def lockedBootInitialise : StateT RollHolds Act BootReport := do
  if (← getThe Hub).initialised then return .empty
  return openingReport (← lockedInitialise.run)

variable {holds : RollHolds} {hub : Hub} {roll : Roll}

theorem exec_withRoll (holds : RollHolds) (roll : Roll) (body : Locked Unit) (hub : Hub) :
    (withRoll roll body).exec holds hub = (if holds roll then refuse else inHand roll body).exec holds hub := rfl

/-- A list that somebody holds is not taken. -/
theorem withRoll_of_held (held : holds roll = true) (body : Locked Unit) (hub : Hub) :
    (withRoll roll body).exec holds hub =
      ((.error .lockTimeout, holds), hub.withLines [(.error, "registry mutex is held, that's impossible")]) := by
  rw [exec_withRoll, if_pos held]
  rfl

/-- A list that was free is free again afterwards, and what the body does is done. -/
theorem withRoll_of_free (free : holds roll = false) {body : Locked Unit} {outcome : Except Fault Unit} {after : Hub}
    (done : body.exec (Function.update holds roll true) hub = ((outcome, Function.update holds roll true), after)) :
    (withRoll roll body).exec holds hub = ((outcome, holds), after) := by
  have freed : Function.update (Function.update holds roll true) roll false = holds := by
    rw [Function.update_idem, ← free, Function.update_eq_self]
  have taken : (modifyThe RollHolds fun holds => Function.update holds roll true : Locked Unit).exec holds hub =
      ((.ok (), Function.update holds roll true), hub) := rfl
  rw [exec_withRoll, if_neg (by simp [free]), inHand, Locked.exec_bind, taken]
  dsimp only
  rw [Locked.exec_bind, Locked.exec_outcome, done]
  show (MonadExcept.ofExcept outcome : Locked Unit).exec
    (Function.update (Function.update holds roll true) roll false) after = _
  rw [freed]
  cases outcome <;> rfl

/-- The lists are emptied when nobody holds them, and nothing is done to them otherwise; either way those hold them afterwards
who held them before. -/
theorem exec_emptyRolls (holds : RollHolds) (hub : Hub) :
    emptyRolls.exec holds hub =
      if holds .classes || holds .leaves then
        ((.error .lockTimeout, holds), hub.withLines [(.error, "registry mutex is held, that's impossible")])
      else ((.ok (), holds), { hub with classes := [], leafList := [] }) := by
  cases classes : holds .classes with
  | true => exact withRoll_of_held classes _ hub
  | false =>
    have other : Function.update holds .classes true .leaves = holds .leaves := Function.update_of_ne (by decide) _ _
    cases leaves : holds .leaves with
    | true => exact withRoll_of_free classes (withRoll_of_held (other.trans leaves) _ hub)
    | false => exact withRoll_of_free classes (withRoll_of_free (other.trans leaves) rfl)

theorem exec_identify (holds : RollHolds) (hub : Hub) : ∃ lines, identify.exec holds hub =
    ((.ok (), holds), { hub.withLines lines with
      identity := Identity.ofThisMachine hub.config.nameBase.text
      initialised := true }) := by
  unfold identify
  rw [Locked.exec_bind]
  show ∃ lines, ((Except.ok (), holds), _) = _
  generalize Identity.ofThisMachine _ = identity
  generalize s!"NOTICE Hardware id is '{identity.hex}' [{identity.short}]" = line
  refine ⟨[(.info, line), (.info, "registry initialise OK")], ?_⟩
  simp only [withLines, List.map_cons, List.map_nil]
  simp [← Array.toList_inj]

theorem exec_lockedInitialise (holds : RollHolds) (hub : Hub) :
    lockedInitialise.exec holds hub = match emptyRolls.exec holds (hub.withLines [(.info, "registry initialise")]) with
      | ((.ok _, left), after) => identify.exec left after
      | ((.error fault, left), after) => ((.error fault, left), after) := by
  have logged : lockedInitialise.exec holds hub =
      (emptyRolls >>= fun _ => identify : Locked Unit).exec holds (hub.withLines [(.info, "registry initialise")]) := rfl
  rw [logged, Locked.exec_bind]
  rcases emptyRolls.exec holds _ with ⟨⟨_ | _, _⟩, _⟩ <;> rfl

/-- Where nobody else can hold the list of classes, a hub initialises itself in the same way. -/
theorem exec_lockedInitialise_eq (free : holds .classes = false) (same : holds .leaves = hub.leafListHeld) :
    lockedInitialise.exec holds hub = (((initialise.run.run hub).1, holds), (initialise.run.run hub).2) := by
  rw [exec_lockedInitialise, exec_emptyRolls, free, same]
  unfold initialise
  rw [Attempt.run_lift_of (run_log hub _ _), Attempt.run_bind_of (Attempt.run_get _)]
  dsimp only
  cases held : hub.leafListHeld with
  | true =>
    rw [if_pos (show (hub.withLines _).leafListHeld = true from held), Attempt.run_lift_of (run_log _ _ _)]
    rfl
  | false =>
    rw [if_neg (show ¬(hub.withLines _).leafListHeld = true from Bool.not_eq_true _ ▸ held)]
    rfl

/-- Lines were logged, and somebody may have come to hold on to leaves. -/
def Aside (hub after : Hub) : Prop :=
  (∃ lines, after = { hub.withLines lines with leaves := after.leaves }) ∧
    ∀ id, ∃ owners, after.leaf id = { hub.leaf id with owners }

theorem aside_withLines (hub : Hub) (lines : List (Level × String)) : hub.Aside (hub.withLines lines) :=
  ⟨⟨lines, rfl⟩, fun id => ⟨(hub.leaf id).owners, rfl⟩⟩

theorem passage_aside : Passage Aside where
  refl := fun hub => by
    have same := aside_withLines hub []
    rwa [withLines_nil] at same
  trans := by
    rintro first second third ⟨⟨early, one⟩, held⟩ ⟨⟨late, two⟩, others⟩
    refine ⟨⟨early ++ late, ?_⟩, fun id => ?_⟩
    · rw [withLines_append, two, one]
      rfl
    · obtain ⟨_, leaf⟩ := held id
      obtain ⟨owners, other⟩ := others id
      exact ⟨owners, by rw [other, leaf]⟩

/-- How initialising a hub may go: whole, or not at all when a list is held. Beside the two lists, the identity and the mark of
initialised hubs, nothing but the log and the owners of leaves is different afterwards. -/
structure Initialises (held : Prop) (hub : Hub) (outcome : Except Fault Unit) (after : Hub) : Prop where
  ends : outcome = .ok () ∨ outcome = .error .lockTimeout
  refused : outcome = .error .lockTimeout ↔ held
  whole : outcome = .ok () → after.classes = [] ∧ after.leafList = [] ∧
    after.identity = Identity.ofThisMachine hub.config.nameBase.text ∧ after.initialised = true
  untouched : outcome = .error .lockTimeout → after.classes = hub.classes ∧ after.leafList = hub.leafList ∧
    after.identity = hub.identity ∧ after.initialised = hub.initialised
  rest : ∃ between, hub.Aside between ∧ after = { between with
    classes := after.classes
    leafList := after.leafList
    identity := after.identity
    initialised := after.initialised }
  flags : hub.SameFlags after

variable {held : Prop} {between after : Hub} {outcome : Except Fault Unit}

theorem Aside.sameFlags (aside : hub.Aside between) : hub.SameFlags between := by
  intro id
  obtain ⟨owners, leaf⟩ := aside.2 id
  rw [leaf]
  exact ⟨rfl, rfl⟩

theorem initialises_of_held (there : held) (lines : List (Level × String)) :
    Initialises held hub (.error .lockTimeout) (hub.withLines lines) where
  ends := .inr rfl
  refused := ⟨fun _ => there, fun _ => rfl⟩
  whole := nofun
  untouched := fun _ => ⟨rfl, rfl, rfl, rfl⟩
  rest := ⟨_, aside_withLines hub lines, rfl⟩
  flags := sameFlags_of_leaves rfl

theorem initialises_of_free (free : ¬held) (lines : List (Level × String)) :
    Initialises held hub (.ok ()) { hub.withLines lines with
      classes := []
      leafList := []
      identity := Identity.ofThisMachine hub.config.nameBase.text
      initialised := true } where
  ends := .inl rfl
  refused := ⟨nofun, fun there => absurd there free⟩
  whole := fun _ => ⟨rfl, rfl, rfl, rfl⟩
  untouched := nofun
  rest := ⟨_, aside_withLines hub lines, rfl⟩
  flags := sameFlags_of_leaves rfl

/-- What was done aside before counts as done by the way. -/
theorem Initialises.of_aside (aside : hub.Aside between) (initialises : Initialises held between outcome after) :
    Initialises held hub outcome after := by
  obtain ⟨lines, same⟩ := aside.1
  obtain ⟨apart, further, rest⟩ := initialises.rest
  refine ⟨initialises.ends, initialises.refused, fun done => ?_, fun refused => ?_,
    ⟨apart, passage_aside.trans aside further, rest⟩, passage_sameFlags.trans aside.sameFlags initialises.flags⟩
  · have whole := initialises.whole done
    rwa [same] at whole
  · have untouched := initialises.untouched refused
    rwa [same] at untouched

theorem initialises_initialise (hub : Hub) :
    Initialises (hub.leafListHeld = true) hub (initialise.run.run hub).1 (initialise.run.run hub).2 := by
  cases held : hub.leafListHeld with
  | true =>
    obtain ⟨lines, ran⟩ := run_initialise_of_held held
    rw [ran]
    exact initialises_of_held rfl lines
  | false =>
    obtain ⟨lines, ran⟩ := run_initialise held
    rw [ran]
    exact initialises_of_free Bool.false_ne_true lines

/-- Nobody's hold on a list is different afterwards, and it does not matter which of the two lists is held. -/
theorem initialises_lockedInitialise (holds : RollHolds) (hub : Hub) :
    ∃ outcome after, lockedInitialise.exec holds hub = ((outcome, holds), after) ∧
      Initialises (holds .classes = true ∨ holds .leaves = true) hub outcome after := by
  rw [exec_lockedInitialise, exec_emptyRolls]
  by_cases held : (holds .classes || holds .leaves) = true
  · refine ⟨_, _, by rw [if_pos held], ?_⟩
    rw [← withLines_append]
    exact initialises_of_held (Bool.or_eq_true_iff.mp held) _
  · rw [if_neg held]
    obtain ⟨lines, identified⟩ := exec_identify holds { hub.withLines [(.info, "registry initialise")] with
      classes := []
      leafList := [] }
    refine ⟨_, _, identified, ?_⟩
    have whole := @initialises_of_free hub _ (fun there => held (Bool.or_eq_true_iff.mpr there))
      ([(.info, "registry initialise")] ++ lines)
    rwa [withLines_append] at whole

theorem run_shellBoot (hub : Hub) :
    Shell.boot.run hub = (shellAnswer (initialise.run.run hub).1, (initialise.run.run hub).2) := by
  unfold Shell.boot
  rw [Act.run_bind_of (Prod.eta _).symm]
  cases (initialise.run.run hub).1 <;> rfl

theorem run_bootInitialise (hub : Hub) : Routine.bootInitialise.run hub = if hub.initialised then (.empty, hub)
    else (openingReport (initialise.run.run hub).1, (initialise.run.run hub).2) := by
  unfold Routine.bootInitialise
  rw [Act.run_bind_of (Act.run_get hub)]
  split
  · rfl
  · rw [Act.run_bind_of (Prod.eta _).symm]
    cases (initialise.run.run hub).1 <;> rfl

theorem run_lockedShellBoot (holds : RollHolds) (hub : Hub) : (lockedShellBoot.run holds).run hub =
    ((shellAnswer (lockedInitialise.exec holds hub).1.1, (lockedInitialise.exec holds hub).1.2),
      (lockedInitialise.exec holds hub).2) := rfl

theorem run_lockedBootInitialise (holds : RollHolds) (hub : Hub) : (lockedBootInitialise.run holds).run hub =
    if hub.initialised then ((.empty, holds), hub)
    else ((openingReport (lockedInitialise.exec holds hub).1.1, (lockedInitialise.exec holds hub).1.2),
      (lockedInitialise.exec holds hub).2) := by
  have looked : (lockedBootInitialise.run holds).run hub =
      ((if hub.initialised then return .empty else return openingReport (← lockedInitialise.run) :
        StateT RollHolds Act BootReport).run holds).run hub := rfl
  rw [looked]
  split <;> rfl

/-- Initialising a hub under these holds, by whichever way it is asked for. The holds are the same afterwards. Where they are the
hub's own, with the list of classes in nobody's hands, so is what happens. -/
structure InitialisesUnder (holds : RollHolds) (hub : Hub) (outcome : Except Fault Unit) (after : Hub) : Prop where
  whole : Initialises (holds .classes = true ∨ holds .leaves = true) hub outcome after
  direct : lockedInitialise.exec holds hub = ((outcome, holds), after)
  shell : (lockedShellBoot.run holds).run hub = ((shellAnswer outcome, holds), after)
  table : (lockedBootInitialise.run holds).run hub =
    if hub.initialised then ((.empty, holds), hub) else ((openingReport outcome, holds), after)
  alone : holds .classes = false → holds .leaves = hub.leafListHeld →
    initialise.run.run hub = (outcome, after) ∧ Shell.boot.run hub = (shellAnswer outcome, after) ∧
      Routine.bootInitialise.run hub = if hub.initialised then (.empty, hub) else (openingReport outcome, after)

theorem initialisesUnder (holds : RollHolds) (hub : Hub) : ∃ outcome after, InitialisesUnder holds hub outcome after := by
  obtain ⟨outcome, after, ran, whole⟩ := initialises_lockedInitialise holds hub
  refine ⟨outcome, after, whole, ran, by rw [run_lockedShellBoot, ran], by rw [run_lockedBootInitialise, ran],
    fun free same => ?_⟩
  cases (exec_lockedInitialise_eq free same).symm.trans ran
  exact ⟨rfl, run_shellBoot hub, run_bootInitialise hub⟩

end LeafHub.Hub
