import LeafHub.Proofs.Hub.Record
import LeafHub.Proofs.Routine.Uses

namespace LeafHub

open Hub

variable {σ α : Type} {app : Application σ} {routine : Routine σ α} {world : World σ} {hub after : Hub}
  {record new : List Registration} {limit : Nat}

namespace Routine

/-- What has been put into the lists up to a step of a run, with what stood in them before. -/
inductive Records (app : Application σ) (routine : Routine σ α) (world : World σ) : Nat → List Registration → Prop
  | start : Records app routine world 0 world.hub.holdings
  /-- The step is none of the hub. -/
  | aside {limit : Nat} {record : List Registration} : Records app routine world limit record →
      ¬(routine.run app limit world).1.Takes (fun _ => True) → Records app routine world (limit + 1) record
  | act {limit : Nat} {record : List Registration} {β : Type} {act : Act β} {next : β → Routine σ α}
      {entered : Hub → List Registration} : Records app routine world limit record →
      (routine.run app limit world).1 = .hub act next → Enters act entered →
      Records app routine world (limit + 1) (record ++ entered (routine.run app limit world).2.hub)

theorem step_of_aside (aside : ¬routine.Takes fun _ => True) : (routine.step app world).2.hub = world.hub := by
  cases routine with
  | hub act next => exact absurd ⟨_, act, next, rfl, trivial⟩ aside
  | _ => rfl

theorem Records.explains (once : world.hub.leafList.Nodup) (records : Records app routine world limit record) :
    Explains record (routine.run app limit world).2.hub := by
  induction records with
  | start => exact explains_holdings once
  | aside _ aside ih =>
    rw [run_next, step_of_aside aside]
    exact ih
  | act _ taken enters ih =>
    rw [run_next, taken]
    exact (enters.enrolled _).explains _ ih

/-- A run that registers in known ways can be recorded from any of its steps on. -/
theorem Records.extend (bodies : ∀ c, (app.body c).Uses Enrols) (uses : routine.Uses Enrols)
    (records : Records app routine world limit record) (more : Nat) :
    ∃ new, Records app routine world (limit + more) (record ++ new) := by
  induction more with
  | zero => exact ⟨[], (List.append_nil record).symm ▸ records⟩
  | succ more ih =>
    obtain ⟨new, reached⟩ := ih
    by_cases taken : (routine.run app (limit + more) world).1.Takes fun _ => True
    · obtain ⟨β, act, next, at_act, _⟩ := taken
      have left := uses.run bodies world (limit + more)
      rw [at_act] at left
      obtain ⟨entered, enters⟩ := left.1
      refine ⟨new ++ entered (routine.run app (limit + more) world).2.hub, ?_⟩
      rw [← List.append_assoc]
      exact .act reached at_act enters
    · exact ⟨new, .aside reached taken⟩

end Routine

namespace Hub

/-- What is looked up is what was registered first, and the lists hold everything that was registered in its order. -/
structure FirstWins (record : List Registration) (hub : Hub) : Prop extends Explains record hub where
  once : hub.leafList.Nodup
  findVariable : ∀ name, hub.findVariable name = (Registration.cells .runtime record).find? fun id => (hub.cell id).name = name
  findSetting : ∀ name, hub.findSetting name = (Registration.cells .persistent record).find? fun id => (hub.cell id).name = name
  findClass : ∀ name, hub.findClass name = (Registration.classes (Registration.recent record)).find? fun leafClass => leafClass.name = name
  findLeaf : ∀ name, hub.findLeaf name = (Registration.leaves (Registration.recent record)).find? fun id => (hub.leaf id).name = name
  findLeafBy : ∀ className accepts, hub.findLeafBy className accepts =
    hub.leafList.find? fun id => (className.all fun name => (hub.leaf id).leafClass.name = name) && accepts id

theorem Explains.firstWins (explains : Explains record hub) : FirstWins record hub where
  toExplains := explains
  once := explains.leafList ▸ nodup_eraseDups _
  findVariable := fun name => congrArg (List.find? _) (explains.listed .runtime)
  findSetting := fun name => congrArg (List.find? _) (explains.listed .persistent)
  findClass := fun name => congrArg (List.find? _) explains.classes
  findLeaf := fun name => (congrArg (List.find? _) explains.leafList).trans (find?_eraseDups _ _)
  findLeafBy := fun className accepts => by
    rw [findLeafBy, leavesOf, List.find?_filter]
    simp only [Bool.decide_and, Bool.decide_eq_true]

/-- Only what there is is listed. An application that keeps to what it has been given cannot list anything else. -/
structure Stocked (hub : Hub) : Prop where
  cells : ∀ catalogue, ∀ id ∈ hub.listed catalogue, id < hub.cells.size
  leaves : ∀ id ∈ hub.leafList, id < hub.leaves.size

/-- A list that has grown behind its old end is still searched from the old front. -/
theorem find?_of_grown {γ : Type} {ids : List γ} {before accepts : γ → Bool} (same : ∀ id ∈ ids, accepts id = before id)
    (more : List γ) {id : γ} (found : ids.find? before = some id) : (ids ++ more).find? accepts = some id := by
  induction ids with
  | nil => cases found
  | cons first rest ih =>
    rw [List.cons_append, List.find?_cons, same first List.mem_cons_self]
    rw [List.find?_cons] at found
    split
    · rename_i accepted
      rwa [accepted] at found
    · rename_i rejected
      rw [rejected] at found
      exact ih (fun id member => same id (List.mem_cons_of_mem _ member)) found

theorem FirstWins.findCell_stays (first : FirstWins record hub) (later : FirstWins (record ++ new) after) (stocked : hub.Stocked)
    (names : hub.KeepsNames after) (catalogue : Catalogue) {name : String} {id : CellId}
    (found : hub.findCell catalogue name = some id) : after.findCell catalogue name = some id := by
  have grown : after.listed catalogue = hub.listed catalogue ++ Registration.cells catalogue new := by
    rw [later.listed, first.listed, Registration.cells_append]
  unfold findCell at found ⊢
  rw [grown]
  refine find?_of_grown (fun other member => ?_) _ found
  rw [names.cell other (stocked.cells catalogue other member)]

theorem FirstWins.findClass_stays (first : FirstWins record hub) (later : FirstWins (record ++ new) after)
    (whole : .emptied ∉ new) {name : String} {leafClass : LeafClass} (found : hub.findClass name = some leafClass) :
    after.findClass name = some leafClass := by
  have grown : after.classes = hub.classes ++ Registration.classes new := by
    rw [later.classes, first.classes, Registration.recent_append record whole, Registration.classes_append]
  unfold Hub.findClass at found ⊢
  rw [grown]
  exact find?_of_grown (fun _ _ => rfl) _ found

theorem FirstWins.findLeaf_stays (first : FirstWins record hub) (later : FirstWins (record ++ new) after) (stocked : hub.Stocked)
    (names : hub.KeepsNames after) (whole : .emptied ∉ new) {name : String} {id : LeafId}
    (found : hub.findLeaf name = some id) : after.findLeaf name = some id := by
  rw [later.findLeaf, Registration.recent_append record whole, Registration.leaves_append]
  rw [first.findLeaf] at found
  refine find?_of_grown (fun other member => ?_) _ found
  have listed : other ∈ hub.leafList := by
    rw [first.leafList]
    exact List.mem_eraseDups.mpr member
  rw [(names.leaf other (stocked.leaves other listed)).1]

end Hub

section Allowed

theorem enrols_quiet {β : Type} {act : Act β} (same : act.Keeps SameLists) : Enrols act :=
  ⟨_, .nothing same⟩

theorem allowsTurns_enrols : AllowsTurns Enrols where
  look := enrols_quiet passage_sameLists.get
  log := fun level line => enrols_quiet (conduct_sameLists.log level line)
  turn := fun queue => enrols_quiet (conduct_sameLists.takeTurn (fun _ _ _ => sameLists_aside)
    (fun _ _ hub => (requeued_note _ hub).sameLists) queue)
  wait := fun time => enrols_quiet (conduct_sameLists.waitUntil time)

theorem allowsRequests_enrols : AllowsRequests Enrols where
  make := enrols_quiet fun _ => sameLists_aside
  makeItem := fun _ => enrols_quiet fun _ => sameLists_aside
  submit := fun item => enrols_quiet fun hub => (requeued_submit item hub).sameLists
  schedule := fun item delay => enrols_quiet fun hub => (requeued_schedule item delay hub).sameLists
  reschedule := fun item delay => enrols_quiet fun hub => (requeued_reschedule item delay hub).sameLists
  cancel := fun item => enrols_quiet fun hub => (requeued_cancel item hub).sameLists
  shutdown := fun _ => enrols_quiet fun _ => sameLists_aside
  retain := fun _ => enrols_quiet fun _ => sameLists_aside
  release := fun _ => enrols_quiet fun _ => sameLists_aside

theorem allowsCells_enrols : AllowsCells Enrols where
  store := fun id value => enrols_quiet (conduct_sameLists.store id value)
  storeRaw := fun id raw => enrols_quiet (conduct_sameLists.storeRaw id raw)
  storeText := fun id text => enrols_quiet (conduct_sameLists.storeText id text)
  count := fun id delta => enrols_quiet (conduct_sameLists.count id delta)
  post := fun id bits => enrols_quiet (conduct_sameLists.post id bits)
  writeCharacteristic := fun id data offset limit => enrols_quiet (conduct_sameLists.writeCharacteristic id data offset limit)
  handleSet := fun key raw => enrols_quiet (conduct_sameLists.handleSet key raw)
  loadSettings := fun store => enrols_quiet (conduct_sameLists.loadSettings store)
  make := fun name initial => enrols_quiet fun hub => (run_newCell hub name initial).2
  register := fun catalogue ids => ⟨_, .register catalogue ids⟩
  flagsOf := fun id => enrols_quiet (conduct_sameLists.flagsOf id)
  changeFlags := fun _ _ => enrols_quiet fun _ => sameLists_aside
  waitFlags := fun flags mask reset limit arrival => enrols_quiet (conduct_sameLists.waitFlags flags mask reset limit arrival)
  waitEvent := fun id mask reset limit => enrols_quiet (conduct_sameLists.waitEvent id mask reset limit)
  subscribe := fun id _ => enrols_quiet fun hub => conduct_sameLists.labour.subscribe (sameLists_setCell hub id rfl)
  unsubscribe := fun id => enrols_quiet fun hub => sameLists_setCell hub id rfl

theorem allows_enrols : Routine.Allows σ SameLists (fun _ => True) Enrols where
  toLogging := conduct_sameLists.labour.toLogging
  quiet := enrols_quiet
  registerClass := fun leafClass => ⟨_, .registerClass leafClass⟩
  bootInitialise := ⟨_, .bootInitialise⟩
  shellBoot := ⟨_, .shellBoot⟩
  retained := fun _ _ => sameLists_setLeaf rfl rfl
  released := fun _ _ => sameLists_setLeaf rfl rfl
  valued := fun name words _ => conduct_sameLists.setValue name words
  beginInit := fun id => ⟨_, .beginInit id⟩
  endInit := fun id outcome => enrols_quiet
    (conduct_sameLists.labour.endInit (fun _ _ _ _ => sameLists_setLeaf rfl rfl) id outcome)
  endStart := fun id outcome => enrols_quiet
    (conduct_sameLists.labour.endStart (fun _ _ _ _ => sameLists_setLeaf rfl rfl) id outcome)
  endStop := fun id outcome => enrols_quiet
    (conduct_sameLists.labour.endStop (fun _ _ _ _ => sameLists_setLeaf rfl rfl) id outcome)
  calls := fun phase id => by
    unfold Routine.callClass
    refine Routine.uses_bind (Routine.uses_act (enrols_quiet passage_sameLists.get)) fun hub => ?_
    split
    · exact Routine.uses_pure _
    · refine Routine.uses_act ?_
      by_cases first : phase = .init
      · exact first ▸ ⟨_, .initLed id⟩
      · exact enrols_quiet (upkeep_sameLists.ledPhase trivial fun init => absurd init first)
    · refine Routine.uses_act ?_
      by_cases first : phase = .init
      · exact first ▸ ⟨_, .initKeypad id⟩
      · exact enrols_quiet (upkeep_sameLists.keypadPhase trivial fun init => absurd init first)
    · exact Routine.uses_act (enrols_quiet (upkeep_sameLists.settingsPhase phase id))
    · exact Routine.uses_ofCall _
  commands := fun command args => by
    unfold Routine.runCommand
    split
    · exact Routine.uses_pure _
    · exact Routine.uses_act (enrols_quiet (conduct_sameLists.ledCommand _ args))
    · exact Routine.uses_act (enrols_quiet (upkeep_sameLists.keypadCommand trivial args))
    · exact Routine.uses_act (enrols_quiet (conduct_sameLists.settingsLeafCommand _ args))
    · exact Routine.uses_ofCall _

end Allowed

namespace Routine

/-- Whatever is registered in a hub, under whatever names and however often, by an application or in the life of leaves: a
look-up finds what was registered first under the name, lists hold what was registered in its order and a leaf only once.
What was found in a list of cells is found for ever, and so is a class or a leaf until the hub is initialised again. -/
theorem first_registered_wins (application : app.Uses Enrols) (uses : routine.Uses Enrols) (once : world.hub.leafList.Nodup) :
    (AllowsLife σ Enrols ∧ AllowsTurns Enrols ∧ AllowsCells Enrols ∧ AllowsRequests Enrols ∧
      ∀ command, Enrols (registerCommand command).run) ∧
    Records app routine world 0 world.hub.holdings ∧
    ∀ limit record, Records app routine world limit record → ∀ hub, (routine.run app limit world).2.hub = hub →
      hub.FirstWins record ∧
      (∀ more, ∃ new, Records app routine world (limit + more) (record ++ new)) ∧
      (hub.Stocked → ∀ more new, Records app routine world (limit + more) (record ++ new) →
        ∀ later, (routine.run app (limit + more) world).2.hub = later →
          (∀ name id, hub.findVariable name = some id → later.findVariable name = some id) ∧
          (∀ name id, hub.findSetting name = some id → later.findSetting name = some id) ∧
          (.emptied ∉ new → (∀ name leafClass, hub.findClass name = some leafClass → later.findClass name = some leafClass) ∧
            ∀ name id, hub.findLeaf name = some id → later.findLeaf name = some id)) := by
  have bodies := application.body allowsTurns_enrols
  have life : AllowsLife σ Enrols := allows_enrols.parts.lives.allowsLife fun _ => trivial
  refine ⟨⟨life, allowsTurns_enrols, allowsCells_enrols, allowsRequests_enrols,
    fun command => enrols_quiet (upkeep_sameLists.registerCommand command)⟩, .start, ?_⟩
  rintro limit record records hub rfl
  have first := (records.explains once).firstWins
  refine ⟨first, records.extend bodies uses, ?_⟩
  rintro stocked more new recorded later rfl
  have last := (recorded.explains once).firstWins
  have names : (routine.run app limit world).2.hub.KeepsNames (routine.run app (limit + more) world).2.hub := by
    rw [run_add]
    exact (uses.run bodies world limit).run_hub passage_keepsNames (fun ⟨_, enters⟩ hub => (enters.enrolled hub).toKeepsNames)
      bodies _ more
  refine ⟨fun name id => first.findCell_stays last stocked names .runtime,
    fun name id => first.findCell_stays last stocked names .persistent, fun whole => ⟨fun name leafClass => ?_, fun name id => ?_⟩⟩
  · exact first.findClass_stays last whole
  · exact first.findLeaf_stays last stocked names whole

/-- A hub with two leaves of one name. -/
def twinWorld : World Unit where
  hub := { fresh .standard with leaves :=
    ⟨#[.fresh ⟨"relay", none, .inert⟩ "twin" none, .fresh ⟨"relay", none, .inert⟩ "twin" none]⟩ }
  own := ()

/-- Registers two cells of one name, the second of them twice, a setting and two classes that share a name, and both leaves.
Initialises the hub after that. -/
def registerTwins : Routine Unit (Except Fault Unit) := do
  let first ← newCell "twin" (.byte 1)
  let second ← newCell "twin" (.byte 2)
  registerVariables [second, first, second]
  discard (addSetting "twin" (.byte 3))
  registerClass ⟨"relay", none, .inert⟩
  registerClass ⟨"relay", some "switch", .inert⟩
  registerLeaf 1
  discard (initLeaf 0)
  registerLeaf 1
  initialise.run

theorem first_registered_wins_twins :
    (registerTwins.run .silent 13 twinWorld).2.hub.leafList = [1, 0] ∧
      (registerTwins.run .silent 14 twinWorld).2.hub.leafList = [] ∧
      ∀ more, (registerTwins.run .silent (13 + more) twinWorld).2.hub.findVariable "twin" = some 1 := by
  have uses : registerTwins.Uses Enrols := by
    refine uses_bind (uses_act (allowsCells_enrols.make _ _)) fun first => ?_
    refine uses_bind (uses_act (allowsCells_enrols.make _ _)) fun second => ?_
    refine uses_bind (uses_act ⟨_, .register .runtime _⟩) fun _ => ?_
    refine uses_bind (uses_bind (uses_act ⟨_, .addSetting _ _⟩) fun _ => uses_pure _) fun _ => ?_
    refine uses_bind (uses_act ⟨_, .registerClass _⟩) fun _ => uses_bind (uses_act ⟨_, .registerClass _⟩) fun _ => ?_
    refine uses_bind (uses_act ⟨_, .registerLeaf _⟩) fun _ => ?_
    refine uses_bind (uses_bind (allows_enrols.initLeaf 0) fun _ => uses_pure _) fun _ => ?_
    exact uses_bind (uses_act ⟨_, .registerLeaf _⟩) fun _ => uses_act ⟨_, .initialise⟩
  obtain ⟨_, begun, kept⟩ := @first_registered_wins Unit _ .silent registerTwins twinWorld Application.uses_silent uses List.nodup_nil
  have stays (limit more : Nat) (stocked : (registerTwins.run .silent limit twinWorld).2.hub.Stocked)
      (found : (registerTwins.run .silent limit twinWorld).2.hub.findVariable "twin" = some 1) :
      (registerTwins.run .silent (limit + more) twinWorld).2.hub.findVariable "twin" = some 1 := by
    obtain ⟨_, extends_start, _⟩ := kept 0 _ begun _ rfl
    obtain ⟨new, records⟩ := extends_start limit
    rw [Nat.zero_add] at records
    obtain ⟨_, extends_on, lasts⟩ := kept limit _ records _ rfl
    obtain ⟨newer, recorded⟩ := extends_on more
    exact (lasts stocked more newer recorded _ rfl).1 "twin" 1 found
  refine ⟨by decide +kernel, by decide +kernel, fun more => stays 13 more ?_ (by decide +kernel)⟩
  exact ⟨fun catalogue => by cases catalogue <;> decide +kernel, by decide +kernel⟩

end Routine

end LeafHub
