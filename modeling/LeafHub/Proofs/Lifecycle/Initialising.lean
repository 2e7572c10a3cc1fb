import LeafHub.Proofs.Hub.Locking
import LeafHub.Proofs.Lifecycle.WholeBoot
import LeafHub.Scenario.LeafSteps

namespace LeafHub

variable {σ : Type}

namespace Hub

/-- The list of leaves is held afterwards if it was held before, and only then. -/
def SameHold (hub after : Hub) : Prop :=
  after.leafListHeld = hub.leafListHeld

theorem Requeued.sameHold {hub after : Hub} (requeued : hub.Requeued after) : hub.SameHold after := by
  obtain ⟨queues, journal, rfl⟩ := requeued
  rfl

theorem frame_sameHold : Frame SameHold where
  refl := fun _ => rfl
  trans := fun first second => second.trans first
  noted := fun _ _ _ => rfl
  told := fun id happening _ hub => (requeued_told id happening hub).sameHold
  filled := fun _ _ _ _ _ => rfl
  counted := fun _ _ _ _ _ => rfl
  flagged := fun _ _ _ => rfl
  lit := fun _ _ _ _ _ => rfl
  scheduled := fun hub _ _ cells delay _ => (requeued_schedule cells.scan delay hub).sameHold
  pinned := fun _ _ => rfl
  bussed := fun _ _ => rfl
  stored := fun _ _ => rfl
  waited := fun _ _ => rfl
  celled := fun _ _ _ _ => rfl
  eventCelled := fun _ _ _ => rfl
  subscribed := fun _ _ _ => rfl
  flagsMade := fun _ _ => rfl
  itemMade := fun _ _ => rfl
  rescheduled := fun id delay hub => (requeued_reschedule id delay hub).sameHold
  cancelled := fun id hub => (requeued_cancel id hub).sameHold
  contexted := fun _ _ _ => rfl
  retained := fun _ _ => rfl
  released := fun _ _ => rfl
  listed := fun _ _ _ => rfl
  catalogued := fun _ _ _ _ _ _ => rfl

theorem allowsTurns_sameHold : AllowsTurns (Act.Keeps SameHold) where
  look := frame_sameHold.get
  log := frame_sameHold.log
  turn := frame_sameHold.takeTurn (fun _ _ _ => rfl) (fun _ _ _ => rfl)
  wait := frame_sameHold.waitUntil

/-- Nothing that is done to the life of leaves takes or frees the list of leaves. -/
theorem lifetime_sameHold : Lifetime SameHold :=
  frame_sameHold.lifetime fun _ _ _ _ => rfl

theorem aside_holdingFor (hub : Hub) (table : BootTable) : hub.Aside (hub.holdingFor table) := by
  refine kept_holdingFor passage_aside (fun id hub => ⟨⟨[], ?_⟩, fun other => ?_⟩) hub table
  · rw [withLines_nil]
    rfl
  · show ∃ owners, Hub.leaf { hub with leaves := hub.leaves.set id _ } other = _
    rw [leaf_set]
    split
    · rename_i here
      rw [here.1]
      exact ⟨_, rfl⟩
    · exact ⟨_, rfl⟩

end Hub

namespace Routine

open Hub

variable {app : Application σ} {world after between : World σ}

/-- Initialising the hub goes whole, or not at all when its lists are held, whoever asks for it. The shell tells which by its
answer, and a boot that comes first does by its report; then the boot goes on with its entries. -/
structure Initialising (app : Application σ) (world : World σ) (held : Prop) : Prop where
  direct : Initialises held world.hub (initialise.run.run world.hub).1 (initialise.run.run world.hub).2
  shell : ∀ args, ∃ outcome opened, Initialises held world.hub outcome opened ∧
    ∀ answer after, (execute ("boot" :: args)).Returns app world answer after ↔
      answer = shellAnswer outcome ∧ after = { world with hub := opened }
  table : ∀ table, ∃ begun opened,
    (world.hub.initialised = true → begun = .empty ∧ world.hub.Aside opened) ∧
    (world.hub.initialised = false → ∃ outcome, Initialises held world.hub outcome opened ∧ begun = openingReport outcome) ∧
    ∀ report after, (boot table).Returns app world report after ↔
      ∃ (steps : List BootStep) (last : World σ), steps.map BootStep.entry = table.schedule ∧
        Boots app steps (entered table world opened) last ∧ report = begun.extend steps ∧
        after = last.after (Hub.log .info s!"boot: done, {report.failures.length} failures")

/-- A hub that has logged the words of a command. -/
def shown (hub : Hub) (args : List String) : Hub :=
  hub.withLines [(.debug, s!"shell {Text.quotedList args}")]

theorem returns_execute_boot_iff {args : List String} {answer : CommandResult} :
    (execute ("boot" :: args)).Returns app world answer after ↔
      answer = (Shell.boot.run (shown world.hub ("boot" :: args))).1 ∧
      after = { world with hub := (Shell.boot.run (shown world.hub ("boot" :: args))).2 } := by
  unfold execute
  rw [returns_act_bind_iff]
  exact returns_act_iff

theorem initialising (app : Application σ) (world : World σ) : Initialising app world (world.hub.leafListHeld = true) where
  direct := initialises_initialise world.hub
  shell := by
    intro args
    have aside : world.hub.Aside (shown world.hub ("boot" :: args)) := aside_withLines world.hub _
    refine ⟨_, _, (initialises_initialise (shown world.hub ("boot" :: args))).of_aside aside, fun answer after => ?_⟩
    rw [returns_execute_boot_iff, run_shellBoot]
  table := by
    intro table
    have begins := run_bootInitialise (world.hub.holdingFor table)
    obtain ⟨same, held⟩ := catalogue_holdingFor world.hub table
    rw [same] at begins
    have aside := aside_holdingFor world.hub table
    cases already : world.hub.initialised with
    | true =>
      rw [if_pos already] at begins
      exact ⟨_, _, fun _ => ⟨rfl, aside⟩, nofun, fun report after => returns_boot_iff begins⟩
    | false =>
      rw [if_neg (by simp [already])] at begins
      have whole := (initialises_initialise (world.hub.holdingFor table)).of_aside aside
      rw [held] at whole
      exact ⟨_, _, nofun, fun _ => ⟨_, whole, rfl⟩, fun report after => returns_boot_iff begins⟩

/-- The first leaf at which a test succeeds. -/
def firstAccepted (test : LeafId → Routine σ Bool) : List LeafId → Routine σ (Option LeafId)
  | [] => return none
  | id :: rest => do
    if ← test id then return some id
    firstAccepted test rest

/-- Looks for a listed leaf of a class and holds the list of leaves meanwhile. The test may do anything. -/
def searchHeld (className : Option String) (test : LeafId → Routine σ Bool) : Routine σ (Option LeafId) := do
  Hub.holdLeafList true
  let leaf ← firstAccepted test ((← get).leavesOf className)
  Hub.holdLeafList false
  return leaf

theorem firstLeaf_eq (test : LeafId → Scenario.Play Bool) (ids : List LeafId) :
    Scenario.Play.firstLeaf test ids = firstAccepted test ids := by
  induction ids with
  | nil => rfl
  | cons id rest ih => rw [Scenario.Play.firstLeaf, firstAccepted, ih]

/-- The searches of scenarios are such searches. -/
theorem findLeafHeld_eq (className : Option String) (test : LeafId → Scenario.Play Bool) :
    Scenario.Play.findLeafHeld className test = (do
      let leaf ← searchHeld className test
      let hub ← get
      return Scenario.Answer.ofOption (Scenario.Play.leafAnswer hub) leaf : Scenario.Play Scenario.Answer) := by
  unfold Scenario.Play.findLeafHeld searchHeld
  simp only [firstLeaf_eq]
  show Routine.hub _ (fun _ => Routine.hub _ fun hub : Hub => (firstAccepted test (hub.leavesOf className)).bind _) =
    Routine.hub _ (fun _ => Routine.hub _ fun hub : Hub => ((firstAccepted test (hub.leavesOf className)).bind _).bind _)
  simp only [bind_assoc]
  rfl

theorem returns_searchHeld_iff {className : Option String} {test : LeafId → Routine σ Bool} {found : Option LeafId} :
    (searchHeld className test).Returns app world found after ↔ ∃ last,
      (firstAccepted test (world.hub.leavesOf className)).Returns app (world.after (holdLeafList true)) found last ∧
        after = last.after (holdLeafList false) := by
  unfold searchHeld
  rw [returns_act_bind_iff, returns_get_bind_iff, returns_bind_iff]
  simp only [returns_act_bind_iff, returns_pure_iff]
  constructor
  · rintro ⟨_, last, first, rfl, rfl⟩
    exact ⟨last, first, rfl⟩
  · rintro ⟨last, first, rfl⟩
    exact ⟨found, last, first, rfl, rfl⟩

theorem returns_firstAccepted_pure_iff {accepts : LeafId → Bool} {ids : List LeafId} {found : Option LeafId} :
    (firstAccepted (fun id => pure (accepts id)) ids).Returns app world found after ↔
      found = ids.find? accepts ∧ after = world := by
  induction ids with
  | nil => exact returns_pure_iff
  | cons id rest ih =>
    have tested : (firstAccepted (fun id => pure (accepts id)) (id :: rest)).Returns app world found after ↔
        ((if accepts id then return some id else firstAccepted (fun id => pure (accepts id)) rest) :
          Routine σ (Option LeafId)).Returns app world found after := Iff.rfl
    rw [tested]
    cases accepted : accepts id with
    | true =>
      rw [List.find?_cons_of_pos accepted]
      exact returns_pure_iff
    | false =>
      rw [List.find?_cons_of_neg (by simp [accepted])]
      exact ih

/-- When the test only looks at the leaf, the search finds what is looked up. -/
theorem returns_searchHeld_pure_iff {className : Option String} {accepts : LeafId → Bool} {found : Option LeafId} :
    (searchHeld className fun id => pure (accepts id)).Returns app world found after ↔
      found = world.hub.findLeafBy className accepts ∧
        after = { world with hub := { world.hub with leafListHeld := false } } := by
  simp only [returns_searchHeld_iff, returns_firstAccepted_pure_iff]
  constructor
  · rintro ⟨_, ⟨rfl, rfl⟩, rfl⟩
    exact ⟨rfl, rfl⟩
  · rintro ⟨rfl, rfl⟩
    exact ⟨_, ⟨rfl, rfl⟩, rfl⟩

/-- A moment of a search. -/
def Searching (app : Application σ) (className : Option String) (test : LeafId → Routine σ Bool) (world between : World σ) :
    Prop :=
  ∃ limit, ((firstAccepted test (world.hub.leavesOf className)).run app limit (world.after (holdLeafList true))).2 = between

theorem uses_firstAccepted {allowed : ∀ {β : Type}, Act β → Prop} {test : LeafId → Routine σ Bool}
    (tests : ∀ id, (test id).Uses allowed) (ids : List LeafId) : (firstAccepted test ids).Uses allowed := by
  induction ids with
  | nil => exact uses_pure _
  | cons id rest ih =>
    refine uses_bind (tests id) fun accepted => ?_
    cases accepted
    · exact ih
    · exact uses_pure _

/-- The list is held at every moment of a search. -/
theorem Searching.held {className : Option String} {test : LeafId → Routine σ Bool}
    (application : app.Uses (Act.Keeps SameHold)) (tests : ∀ id, (test id).Uses (Act.Keeps SameHold))
    (searching : Searching app className test world between) : between.hub.leafListHeld = true := by
  obtain ⟨limit, rfl⟩ := searching
  exact (uses_firstAccepted tests _).run_hub frame_sameHold.toPassage (fun keeps => keeps)
    (application.body allowsTurns_sameHold) (world.after (holdLeafList true)) limit

/-- Initialising a hub is all or nothing. Whoever holds one of the two lists keeps it, and the hub is initialised when nobody
does. While leaves are searched the list of leaves is held: whatever the test of the search and the application do, short of
searching themselves, the hub is not initialised, and the list is free again when the search has come to its end. With a test
that only looks at the leaf such a search finds what is looked up, and the searches of scenarios are such searches. -/
theorem initialise_whole_or_refused (app : Application σ) (world : World σ) :
    (∀ holds, ∃ outcome after, InitialisesUnder holds world.hub outcome after) ∧
    Initialising app world (world.hub.leafListHeld = true) ∧
    (∀ className test, app.Uses (Act.Keeps SameHold) → (∀ id, (test id).Uses (Act.Keeps SameHold)) →
      (∀ between, Searching app className test world between → Initialising app between True) ∧
      ∀ found after, (searchHeld className test).Returns app world found after → after.hub.leafListHeld = false) ∧
    (∀ className accepts found after, (searchHeld className fun id => pure (accepts id)).Returns app world found after ↔
      found = world.hub.findLeafBy className accepts ∧
        after = { world with hub := { world.hub with leafListHeld := false } }) ∧
    ∀ className test, Scenario.Play.findLeafHeld className test = (do
      let leaf ← searchHeld className test
      let hub ← get
      return Scenario.Answer.ofOption (Scenario.Play.leafAnswer hub) leaf : Scenario.Play Scenario.Answer) := by
  refine ⟨fun holds => initialisesUnder holds world.hub, initialising app world,
    fun className test application tests => ⟨?_, ?_⟩, fun _ _ _ _ => returns_searchHeld_pure_iff, findLeafHeld_eq⟩
  · intro between searching
    have held := searching.held application tests
    have all := initialising app between
    rwa [eq_true held] at all
  · intro found after returns
    obtain ⟨last, _, rfl⟩ := returns_searchHeld_iff.mp returns
    rfl

/-- A test that tries to initialise the hub in every way, and succeeds if none of them does. -/
def trying (_ : LeafId) : Routine σ Bool := do
  let direct ← Hub.initialise.run
  let shell ← execute ["boot"]
  let report ← boot .empty
  return !direct.isOk && shell.code = Fault.lockTimeout.errno && report.failures = [("initialise", .lockTimeout)]

theorem uses_trying (id : LeafId) : (trying id : Routine σ Bool).Uses (Act.Keeps SameHold) := by
  have direct : Act.Keeps SameHold Hub.initialise.run := lifetime_sameHold.initialise
  have shell : (execute ["boot"] : Routine σ CommandResult).Uses (Act.Keeps SameHold) :=
    lifetime_sameHold.allows.parts.execute ["boot"] fun _ _ _ => trivial
  have table : (boot .empty : Routine σ BootReport).Uses (Act.Keeps SameHold) := lifetime_sameHold.allowsLife.boot .empty
  exact uses_bind (uses_act direct) fun _ => uses_bind shell fun _ => uses_bind table fun _ => uses_pure _

/-- A hub with one leaf, which nobody has initialised. -/
def listing : World Unit where
  hub := { fresh .standard with
    classes := [⟨"c", none, .inert⟩]
    leafList := [0]
    leaves := ⟨#[.fresh ⟨"c", none, .inert⟩ "a" none]⟩ }
  own := ()

theorem initialise_whole_or_refused_trying :
    ((searchHeld none trying).run Application.silent 100 listing).1.answer? = some (some 0) ∧
      ((searchHeld none trying).run Application.silent 100 listing).2.hub.leafList = [0] ∧
      ((searchHeld none trying).run Application.silent 100 listing).2.hub.initialised = false ∧
      ∀ between, Searching Application.silent none trying listing between → Initialising Application.silent between True := by
  obtain ⟨-, -, search, -, -⟩ := initialise_whole_or_refused Application.silent listing
  exact ⟨by decide +kernel, by decide +kernel, by decide +kernel, (search none trying Application.uses_silent uses_trying).1⟩

end Routine

end LeafHub
