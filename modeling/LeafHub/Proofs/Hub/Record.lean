import LeafHub.Proofs.Hub.Listing
import LeafHub.Proofs.Hub.Outfit
import LeafHub.Proofs.Hub.Respect
import Mathlib.Data.List.DropRight

namespace LeafHub

open Hub

/-- What is put into a list of the hub. -/
inductive Registration where
  | cell (catalogue : Catalogue) (id : CellId)
  | leafClass (leafClass : LeafClass)
  | leaf (id : LeafId)
  /-- The lists of classes and leaves are emptied. -/
  | emptied
  deriving DecidableEq

namespace Registration

/-- The cells that were registered in a list. -/
def cells (catalogue : Catalogue) (record : List Registration) : List CellId :=
  record.filterMap fun
    | .cell other id => if other = catalogue then some id else none
    | _ => none

def classes (record : List Registration) : List LeafClass :=
  record.filterMap fun
    | .leafClass registered => some registered
    | _ => none

def leaves (record : List Registration) : List LeafId :=
  record.filterMap fun
    | .leaf id => some id
    | _ => none

/-- What came since the lists of classes and leaves were emptied last. -/
def recent (record : List Registration) : List Registration :=
  record.rtakeWhile (· ≠ .emptied)

theorem cells_append (catalogue : Catalogue) (record new : List Registration) :
    cells catalogue (record ++ new) = cells catalogue record ++ cells catalogue new :=
  List.filterMap_append

theorem classes_append (record new : List Registration) : classes (record ++ new) = classes record ++ classes new :=
  List.filterMap_append

theorem leaves_append (record new : List Registration) : leaves (record ++ new) = leaves record ++ leaves new :=
  List.filterMap_append

theorem recent_emptied (record : List Registration) : recent (record ++ [.emptied]) = [] :=
  List.rtakeWhile_concat_neg _ _ _ (by simp)

theorem recent_append (record : List Registration) {new : List Registration} (whole : .emptied ∉ new) :
    recent (record ++ new) = recent record ++ new := by
  induction new using List.reverseRecOn with
  | nil => simp
  | append_singleton new last ih =>
    simp only [List.mem_append, List.mem_singleton, not_or] at whole
    rw [← List.append_assoc, ← List.append_assoc, ← ih whole.1]
    exact List.rtakeWhile_concat_pos _ _ _ (by simpa using Ne.symm whole.2)

theorem cells_map (catalogue other : Catalogue) (ids : List CellId) :
    cells catalogue (ids.map (.cell other)) = if other = catalogue then ids else [] := by
  unfold cells
  rw [List.filterMap_map]
  split
  · rename_i same
    simp [same]
  · rename_i apart
    simp [apart]

end Registration

/-- The cells of an outfit in the order in which they are registered. -/
def Outfit.registrations (outfit : Outfit) : List Registration :=
  (outfit.rows .persistent).map (.cell .persistent ·.1) ++ (outfit.rows .runtime).map (.cell .runtime ·.1)

section Repeats

variable {ids : List LeafId} {id : LeafId}

theorem eraseDups_concat (ids : List LeafId) (id : LeafId) : (ids ++ [id]).eraseDups = joined ids.eraseDups id := by
  unfold joined
  rw [List.eraseDups_append]
  by_cases member : id ∈ ids
  · rw [if_pos (List.mem_eraseDups.mpr member)]
    simp [List.removeAll, member]
  · rw [if_neg fun there => member (List.mem_eraseDups.mp there)]
    simp [List.removeAll, member, List.eraseDups_cons]

theorem nodup_eraseDups (ids : List LeafId) : ids.eraseDups.Nodup := by
  induction ids using List.reverseRecOn with
  | nil => exact List.nodup_nil
  | append_singleton ids id ih =>
    rw [eraseDups_concat, joined]
    split
    · exact ih
    · rename_i absent
      exact List.nodup_append.mpr ⟨ih, List.nodup_singleton id, fun _ there _ last => by
        rw [List.mem_singleton.mp last]
        rintro rfl
        exact absent there⟩

theorem eraseDups_of_nodup (once : ids.Nodup) : ids.eraseDups = ids := by
  induction ids using List.reverseRecOn with
  | nil => rfl
  | append_singleton ids id ih =>
    obtain ⟨before, _, apart⟩ := List.nodup_append.mp once
    rw [eraseDups_concat, ih before, joined, if_neg fun there => apart id there id (List.mem_singleton_self id) rfl]

/-- What is found first is found first among the repeats too. -/
theorem find?_eraseDups (accepts : LeafId → Bool) (ids : List LeafId) :
    ids.eraseDups.find? accepts = ids.find? accepts := by
  induction ids using List.reverseRecOn with
  | nil => rfl
  | append_singleton ids id ih =>
    rw [eraseDups_concat, joined, List.find?_append]
    split
    · rename_i there
      rw [ih]
      cases found : ids.find? accepts with
      | some first => rfl
      | none =>
        have rejected := List.find?_eq_none.mp found id (List.mem_eraseDups.mp there)
        simp [rejected]
    · rw [List.find?_append, ih]

end Repeats

namespace Hub

variable {hub between after : Hub} {record new : List Registration}

/-- The lists are what the record makes of them. -/
structure Explains (record : List Registration) (hub : Hub) : Prop where
  listed : ∀ catalogue, hub.listed catalogue = Registration.cells catalogue record
  classes : hub.classes = Registration.classes (Registration.recent record)
  leafList : hub.leafList = (Registration.leaves (Registration.recent record)).eraseDups

/-- What stands in the lists, as a record. -/
def holdings (hub : Hub) : List Registration :=
  hub.variableList.map (.cell .runtime) ++ hub.settingList.map (.cell .persistent) ++ hub.classes.map .leafClass ++
    hub.leafList.map .leaf

theorem explains_holdings (once : hub.leafList.Nodup) : Explains hub.holdings hub := by
  have whole : .emptied ∉ hub.holdings := by simp [holdings]
  have recent : Registration.recent hub.holdings = hub.holdings := Registration.recent_append [] whole
  refine ⟨fun catalogue => ?_, ?_, ?_⟩
  · cases catalogue <;> simp [holdings, listed, Registration.cells, List.filterMap_append, List.filterMap_map]
  · rw [recent]
    simp [holdings, Registration.classes, List.filterMap_append, List.filterMap_map]
  · rw [recent]
    have leaves : Registration.leaves hub.holdings = hub.leafList := by
      simp [holdings, Registration.leaves, List.filterMap_append, List.filterMap_map]
    rw [leaves, eraseDups_of_nodup once]

theorem Explains.append (explains : Explains record hub) (whole : .emptied ∉ new)
    (listed : ∀ catalogue, after.listed catalogue = hub.listed catalogue ++ Registration.cells catalogue new)
    (classes : after.classes = hub.classes ++ Registration.classes new)
    (leafList : after.leafList = (Registration.leaves new).foldl joined hub.leafList) : Explains (record ++ new) after where
  listed := fun catalogue => by rw [listed, explains.listed, Registration.cells_append]
  classes := by rw [classes, explains.classes, Registration.recent_append record whole, Registration.classes_append]
  leafList := by
    rw [leafList, explains.leafList, Registration.recent_append record whole, Registration.leaves_append]
    generalize Registration.leaves new = ids
    induction ids using List.reverseRecOn with
    | nil => rw [List.append_nil, List.foldl_nil]
    | append_singleton ids id ih => rw [List.foldl_append, List.foldl_cons, List.foldl_nil, ih, ← List.append_assoc, eraseDups_concat]

/-- Whatever there is stays, and keeps its name. -/
structure KeepsNames (hub after : Hub) : Prop where
  cells : hub.cells.size ≤ after.cells.size
  cell : ∀ id < hub.cells.size, (after.cell id).name = (hub.cell id).name
  leaves : hub.leaves.size ≤ after.leaves.size
  leaf : ∀ id < hub.leaves.size, (after.leaf id).name = (hub.leaf id).name ∧
    (after.leaf id).leafClass = (hub.leaf id).leafClass

theorem passage_keepsNames : Passage KeepsNames where
  refl := fun _ => ⟨Nat.le_refl _, fun _ _ => rfl, Nat.le_refl _, fun _ _ => ⟨rfl, rfl⟩⟩
  trans := fun first second =>
    { cells := Nat.le_trans first.cells second.cells
      cell := fun id known => (second.cell id (Nat.lt_of_lt_of_le known first.cells)).trans (first.cell id known)
      leaves := Nat.le_trans first.leaves second.leaves
      leaf := fun id known => by
        obtain ⟨name, leafClass⟩ := second.leaf id (Nat.lt_of_lt_of_le known first.leaves)
        exact ⟨name.trans (first.leaf id known).1, leafClass.trans (first.leaf id known).2⟩ }

/-- As `KeepsNames`, and what is listed stays as it is. -/
structure SameLists (hub after : Hub) : Prop extends KeepsNames hub after where
  listed : ∀ catalogue, after.listed catalogue = hub.listed catalogue
  classes : after.classes = hub.classes
  leafList : after.leafList = hub.leafList

theorem passage_sameLists : Passage SameLists where
  refl := fun hub => ⟨passage_keepsNames.refl hub, fun _ => rfl, rfl, rfl⟩
  trans := fun first second =>
    { passage_keepsNames.trans first.toKeepsNames second.toKeepsNames with
      listed := fun catalogue => (second.listed catalogue).trans (first.listed catalogue)
      classes := second.classes.trans first.classes
      leafList := second.leafList.trans first.leafList }

theorem SameLists.explains (same : SameLists hub after) (explains : Explains record hub) : Explains record after where
  listed := fun catalogue => (same.listed catalogue).trans (explains.listed catalogue)
  classes := same.classes.trans explains.classes
  leafList := same.leafList.trans explains.leafList

section Steps

/-- Steps that touch neither lists nor leaves, and cells in what they hold at most. -/
theorem sameLists_of_names (cells : after.cells.size = hub.cells.size) (cell : ∀ id, (after.cell id).name = (hub.cell id).name)
    (leaves : after.leaves = hub.leaves) (listed : ∀ catalogue, after.listed catalogue = hub.listed catalogue)
    (classes : after.classes = hub.classes) (leafList : after.leafList = hub.leafList) : SameLists hub after where
  cells := Nat.le_of_eq cells.symm
  cell := fun id _ => cell id
  leaves := Nat.le_of_eq (by rw [leaves])
  leaf := fun id _ => by
    rw [Hub.leaf, leaves]
    exact ⟨rfl, rfl⟩
  listed := listed
  classes := classes
  leafList := leafList

theorem Requeued.sameLists (requeued : hub.Requeued after) : SameLists hub after := by
  obtain ⟨queues, journal, rfl⟩ := requeued
  exact sameLists_of_names rfl (fun _ => rfl) rfl (fun _ => rfl) rfl rfl

theorem sameLists_aside {commands : CommandTable} {flags : Pool UInt32} {queues : Pool WorkQueue} {items : Pool WorkItem}
    {pins : Directory Pin} {buses : Directory Bus} {media : Directory Medium} {clock : Nat} {journal : Array Happening} :
    SameLists hub { hub with commands, flags, queues, items, pins, buses, media, clock, journal } :=
  sameLists_of_names rfl (fun _ => rfl) rfl (fun _ => rfl) rfl rfl

/-- A cell changes, but not in its name. -/
theorem sameLists_setCell (hub : Hub) (id : CellId) {other : Cell} (name : other.name = (hub.cell id).name) :
    SameLists hub { hub with cells := hub.cells.set id other } := by
  refine sameLists_of_names (Pool.size_set _ _ _) (fun another => ?_) rfl (fun _ => rfl) rfl rfl
  show ((hub.cells.set id other).get another).name = (hub.cells.get another).name
  rw [Pool.get_set]
  split
  · rename_i here
    rw [here.1]
    exact name
  · rfl

/-- A leaf changes, but neither in its name nor in its class. -/
theorem sameLists_setLeaf {id : LeafId} {other : Leaf} (name : other.name = (hub.leaf id).name)
    (leafClass : other.leafClass = (hub.leaf id).leafClass) :
    SameLists hub { hub with leaves := hub.leaves.set id other } where
  toKeepsNames :=
    { passage_keepsNames.refl hub with
      leaves := Nat.le_of_eq (Pool.size_set _ _ _).symm
      leaf := fun another _ => by
        show ((hub.leaves.set id other).get another).name = _ ∧ ((hub.leaves.set id other).get another).leafClass = _
        rw [Pool.get_set]
        split
        · rename_i here
          rw [here.1]
          exact ⟨name, leafClass⟩
        · exact ⟨rfl, rfl⟩ }
  listed := fun _ => rfl
  classes := rfl
  leafList := rfl

theorem conduct_sameLists : Conduct SameLists where
  toPassage := passage_sameLists
  noted := fun hub happening _ => (requeued_note happening hub).sameLists
  told := fun id happening _ hub => (requeued_told id happening hub).sameLists
  filled := fun hub id _ _ _ => sameLists_setCell hub id rfl
  counted := fun hub id _ _ _ => sameLists_setCell hub id rfl
  flagged := fun _ _ _ => sameLists_aside
  lit := fun _ _ _ _ _ => sameLists_setLeaf rfl rfl
  scheduled := fun hub _ _ cells delay _ => (requeued_schedule cells.scan delay hub).sameLists
  pinned := fun _ _ => sameLists_aside
  bussed := fun _ _ => sameLists_aside
  stored := fun _ _ => sameLists_aside
  waited := fun _ _ => sameLists_aside

theorem upkeep_sameLists : Upkeep (fun _ => True) SameLists where
  toLabour := conduct_sameLists.labour
  scanned := fun _ _ _ _ _ _ => sameLists_setLeaf rfl rfl
  rescheduled := fun hub _ _ cells _ delay _ _ => (requeued_reschedule cells.scan delay hub).sameLists
  cancelled := fun hub _ _ cells _ _ _ => (requeued_cancel cells.scan hub).sameLists
  registerCommand := conduct_sameLists.labour.toLogging.bindCommand fun _ _ _ _ => sameLists_aside

end Steps

/-- Everything has its name still, and the new registrations account for what is in the lists. -/
structure Enrolled (new : List Registration) (hub after : Hub) : Prop extends KeepsNames hub after where
  explains : ∀ record, Explains record hub → Explains (record ++ new) after

theorem SameLists.enrolled (same : SameLists hub after) : Enrolled [] hub after where
  toKeepsNames := same.toKeepsNames
  explains := fun record explains => (List.append_nil record).symm ▸ same.explains explains

theorem Enrolled.trans {newer : List Registration} (first : Enrolled new hub between) (second : Enrolled newer between after) :
    Enrolled (new ++ newer) hub after where
  toKeepsNames := passage_keepsNames.trans first.toKeepsNames second.toKeepsNames
  explains := fun record explains => List.append_assoc record new newer ▸ second.explains _ (first.explains record explains)

theorem Enrolled.then_same (first : Enrolled new hub between) (second : SameLists between after) : Enrolled new hub after :=
  List.append_nil new ▸ first.trans second.enrolled

/-- After the first of two acts nothing is listed. -/
theorem Enrolled.bind {α β : Type} {first : Act α} {second : α → Act β} (enrolled : Enrolled new hub (first.run hub).2)
    (rest : ∀ answer, Act.Keeps SameLists (second answer)) : Enrolled new hub ((first >>= second).run hub).2 := by
  rw [StateT.run_bind]
  exact enrolled.then_same (rest _ _)

section Lists

theorem enrolled_log (level : Level) (line : String) : Enrolled [] hub ((log level line).run hub).2 :=
  (requeued_log level line hub).sameLists.enrolled

theorem enrolled_register (catalogue : Catalogue) (ids : List CellId) :
    Enrolled (ids.map (.cell catalogue)) hub ((register catalogue ids).run hub).2 := by
  obtain ⟨lines, registered⟩ := @grow_registerFrom hub catalogue ids.length ids 0
    ⟨[], hub.cells, hub.flags, hub.items, hub.variableList, hub.settingList⟩
  rw [grow_self] at registered
  unfold register
  rw [registered]
  refine ⟨?_, fun record explains => explains.append (by simp) (fun other => ?_) ?_ ?_⟩
  · cases catalogue <;> exact ⟨Nat.le_refl _, fun _ _ => rfl, Nat.le_refl _, fun _ _ => ⟨rfl, rfl⟩⟩
  · rw [Registration.cells_map]
    cases catalogue <;> cases other <;> simp [Growth.listing, grow, Hub.listed, withLines]
  · cases catalogue <;> simp [Registration.classes, List.filterMap_map, Growth.listing, grow, withLines]
  · cases catalogue <;> simp [Registration.leaves, List.filterMap_map, Growth.listing, grow, withLines]

theorem enrolled_registerSettings (ids : List CellId) :
    Enrolled (ids.map (.cell .persistent)) hub ((registerSettings ids).run hub).2 := by
  unfold registerSettings
  rw [StateT.run_bind]
  exact (enrolled_log _ _).trans (enrolled_register .persistent ids)

/-- A new cell is not listed yet. -/
theorem run_newCell (hub : Hub) (name : String) (initial : Value) :
    ((newCell name initial).run hub).1 = hub.cells.size ∧ SameLists hub ((newCell name initial).run hub).2 := by
  obtain ⟨lines, made⟩ := @grow_newCell hub [] hub.cells hub.flags hub.items hub.variableList hub.settingList name initial
  rw [grow_self] at made
  rw [made]
  refine ⟨rfl, ?_⟩
  exact
    { cells := by
        show hub.cells.size ≤ (hub.cells.add _).size
        simp
      cell := fun id known => congrArg Cell.name (Pool.get_add_old known _)
      leaves := Nat.le_refl _
      leaf := fun _ _ => ⟨rfl, rfl⟩
      listed := fun catalogue => by cases catalogue <;> rfl
      classes := rfl
      leafList := rfl }

theorem enrolled_addSetting (name : String) (initial : Value) :
    Enrolled [.cell .persistent hub.cells.size] hub ((addSetting name initial).run hub).2 := by
  obtain ⟨answer, made⟩ := run_newCell hub name initial
  have ran : (newCell name initial).run hub = (hub.cells.size, ((newCell name initial).run hub).2) := Prod.ext answer rfl
  unfold addSetting
  rw [Act.run_bind_of ran]
  have registered := @enrolled_register ((newCell name initial).run hub).2 .persistent [hub.cells.size]
  exact made.enrolled.trans (registered.bind fun _ => passage_sameLists.pure _)

theorem enrolled_registerClass (leafClass : LeafClass) :
    Enrolled [.leafClass leafClass] hub ((registerClass leafClass).run hub).2 := by
  obtain ⟨lines, registered⟩ := run_registerClass hub leafClass
  rw [registered]
  refine ⟨⟨Nat.le_refl _, fun _ _ => rfl, Nat.le_refl _, fun _ _ => ⟨rfl, rfl⟩⟩, fun record explains => ?_⟩
  refine explains.append (by simp) (fun catalogue => ?_) rfl rfl
  cases catalogue <;> exact (List.append_nil _).symm

theorem enrolled_joined {lines : List (Level × String)} (id : LeafId) :
    Enrolled [.leaf id] hub { hub.withLines lines with leafList := joined hub.leafList id } := by
  refine ⟨⟨Nat.le_refl _, fun _ _ => rfl, Nat.le_refl _, fun _ _ => ⟨rfl, rfl⟩⟩, fun record explains => ?_⟩
  refine explains.append (by simp) (fun catalogue => ?_) (List.append_nil _).symm rfl
  cases catalogue <;> exact (List.append_nil _).symm

theorem enrolled_registerLeaf (id : LeafId) : Enrolled [.leaf id] hub ((registerLeaf id).run hub).2 := by
  obtain ⟨lines, registered⟩ := run_registerLeaf hub id
  rw [registered]
  exact enrolled_joined id

theorem enrolled_beginInit (id : LeafId) : Enrolled [.leaf id] hub ((beginInit id).run hub).2 := by
  obtain ⟨lines, begun⟩ := run_beginInit hub id
  rw [begun]
  exact (enrolled_joined id).then_same (@sameLists_setLeaf { hub.withLines lines with leafList := joined hub.leafList id } id
    { hub.leaf id with ready := false, running := false } rfl rfl)

/-- What initialising the hub puts into the record. -/
def emptying (hub : Hub) : List Registration :=
  if hub.leafListHeld then [] else [.emptied]

theorem enrolled_initialise : Enrolled hub.emptying hub (initialise.run.run hub).2 := by
  unfold emptying
  split
  · rename_i held
    obtain ⟨lines, refused⟩ := run_initialise_of_held held
    rw [refused]
    exact (sameLists_of_names rfl (fun _ => rfl) rfl (fun _ => rfl) rfl rfl : SameLists hub (hub.withLines lines)).enrolled
  · rename_i free
    obtain ⟨lines, done⟩ := run_initialise (eq_false_of_ne_true free)
    rw [done]
    refine ⟨⟨Nat.le_refl _, fun _ _ => rfl, Nat.le_refl _, fun _ _ => ⟨rfl, rfl⟩⟩, fun record explains => ?_⟩
    refine ⟨fun catalogue => ?_, ?_, ?_⟩
    · rw [Registration.cells_append]
      exact (explains.listed catalogue).trans (List.append_nil _).symm
    · rw [Registration.recent_emptied]
      rfl
    · rw [Registration.recent_emptied]
      rfl

/-- A boot initialises the hub only once. -/
theorem enrolled_bootInitialise :
    Enrolled (if hub.initialised then [] else hub.emptying) hub (Routine.bootInitialise.run hub).2 := by
  unfold Routine.bootInitialise
  rw [Act.run_bind_of (Act.run_get hub)]
  split
  · exact (passage_sameLists.refl hub).enrolled
  · refine enrolled_initialise.bind fun outcome => ?_
    split <;> exact passage_sameLists.pure _

theorem enrolled_shellBoot : Enrolled hub.emptying hub (Shell.boot.run hub).2 := by
  refine enrolled_initialise.bind fun outcome => ?_
  split <;> exact passage_sameLists.pure _

end Lists

section Inits

theorem Retains.keepsNames (retains : Retains hub after) : KeepsNames hub after where
  cells := retains.cells
  cell := fun id known => congrArg Prod.fst (retains.cell id known)
  leaves := retains.leaves
  leaf := retains.leaf

theorem GrowsBy.enrolled {id : LeafId} {outfit : Outfit} {growth : Growth} (grows : hub.GrowsBy id outfit growth)
    (context : Context) : Enrolled outfit.registrations hub ((setContext id context).run (hub.grow growth)).2 := by
  have grown : Enrolled outfit.registrations hub (hub.grow growth) := by
    refine ⟨grows.retains.keepsNames, fun record explains => explains.append ?_ (fun catalogue => ?_) ?_ ?_⟩
    · simp [Outfit.registrations]
    · rw [grows.listed]
      cases outfit <;> cases catalogue <;> rfl
    · cases outfit <;> exact (List.append_nil _).symm
    · cases outfit <;> rfl
  exact grown.then_same (sameLists_setLeaf rfl rfl)

/-- What the init of an LED registers. -/
def ledRegistrations (hub : Hub) (id : LeafId) : List Registration :=
  match hub.led? id with
  | some ⟨_, none, _⟩ => (Outfit.led hub.nextLed).registrations
  | _ => []

/-- What the init of a keypad registers. -/
def keypadRegistrations (hub : Hub) (id : LeafId) : List Registration :=
  match hub.keypad? id with
  | some ⟨_, none, _⟩ => (Outfit.keypad hub.nextKeypad).registrations
  | _ => []

theorem sameLists_readyLed (id : LeafId) : Attempt.Keeps SameLists (readyLed id) := by
  have labour := conduct_sameLists.labour
  exact labour.readyLed (labour.driveLed trivial false) (labour.markLed (labour.adjusts trivial).led)
    upkeep_sameLists.registerCommand

theorem enrolled_initLed (id : LeafId) : Enrolled (hub.ledRegistrations id) hub ((ledPhase .init id).run.run hub).2 := by
  unfold ledRegistrations
  split
  · rename_i pin lit bare
    obtain ⟨lines, ran⟩ := run_first_ledPhase bare
    rw [ran]
    exact ((growsBy_led hub id lines).enrolled _).then_same (sameLists_readyLed id _)
  · rename_i fitted
    match holds : hub.led? id with
    | none =>
      rw [run_ledPhase_of_none holds]
      exact (passage_sameLists.refl hub).enrolled
    | some ⟨pin, none, lit⟩ => exact absurd holds (fitted pin lit)
    | some ⟨pin, some cells, lit⟩ =>
      rw [run_again_ledPhase holds]
      exact (sameLists_readyLed id hub).enrolled

theorem enrolled_initKeypad (id : LeafId) :
    Enrolled (hub.keypadRegistrations id) hub ((keypadPhase .init id).run.run hub).2 := by
  have configured (name bus : String) : Attempt.Keeps SameLists (configureKeypad id name bus) :=
    upkeep_sameLists.configureKeypad upkeep_sameLists.writeKeypad (upkeep_sameLists.adjusts trivial).keypad
      upkeep_sameLists.registerCommand name bus
  have logged (lines : List (Level × String)) : SameLists hub (hub.withLines lines) := sameLists_aside
  unfold keypadRegistrations
  split
  · rename_i bus scanning bare
    obtain ⟨lines, ran⟩ := run_first_keypadPhase bare
    rw [ran]
    exact ((growsBy_keypad hub id lines).enrolled _).then_same (configured _ _ _)
  · rename_i fitted
    match holds : hub.keypad? id with
    | none =>
      obtain ⟨lines, ran⟩ := run_keypadPhase_of_none holds
      rw [ran]
      exact (logged lines).enrolled
    | some ⟨bus, none, scanning⟩ => exact absurd holds (fitted bus scanning)
    | some ⟨bus, some cells, scanning⟩ =>
      obtain ⟨lines, ran⟩ := run_again_keypadPhase holds
      rw [ran]
      exact (logged lines).enrolled.then_same (configured _ _ _)

end Inits

end Hub

/-- What an act puts into the lists of the hub in which it is done. -/
inductive Enters : {β : Type} → Act β → (Hub → List Registration) → Prop
  | nothing {β : Type} {act : Act β} : act.Keeps SameLists → Enters act fun _ => []
  | register (catalogue : Catalogue) (ids : List CellId) : Enters (register catalogue ids) fun _ => ids.map (.cell catalogue)
  | registerSettings (ids : List CellId) : Enters (registerSettings ids) fun _ => ids.map (.cell .persistent)
  | addSetting (name : String) (initial : Value) : Enters (addSetting name initial) fun hub => [.cell .persistent hub.cells.size]
  | registerClass (leafClass : LeafClass) : Enters (registerClass leafClass) fun _ => [.leafClass leafClass]
  | registerLeaf (id : LeafId) : Enters (registerLeaf id) fun _ => [.leaf id]
  | beginInit (id : LeafId) : Enters (beginInit id) fun _ => [.leaf id]
  | initialise : Enters initialise.run emptying
  | bootInitialise : Enters Routine.bootInitialise fun hub => if hub.initialised then [] else hub.emptying
  | shellBoot : Enters Shell.boot emptying
  | initLed (id : LeafId) : Enters (ledPhase .init id).run fun hub => hub.ledRegistrations id
  | initKeypad (id : LeafId) : Enters (keypadPhase .init id).run fun hub => hub.keypadRegistrations id

theorem Enters.enrolled {β : Type} {act : Act β} {entered : Hub → List Registration} (enters : Enters act entered) (hub : Hub) :
    Enrolled (entered hub) hub (act.run hub).2 := by
  cases enters with
  | nothing same => exact (same hub).enrolled
  | register catalogue ids => exact enrolled_register catalogue ids
  | registerSettings ids => exact enrolled_registerSettings ids
  | addSetting name initial => exact enrolled_addSetting name initial
  | registerClass leafClass => exact enrolled_registerClass leafClass
  | registerLeaf id => exact enrolled_registerLeaf id
  | beginInit id => exact enrolled_beginInit id
  | initialise => exact enrolled_initialise
  | bootInitialise => exact enrolled_bootInitialise
  | shellBoot => exact enrolled_shellBoot
  | initLed id => exact enrolled_initLed id
  | initKeypad id => exact enrolled_initKeypad id

/-- An act of which it is known what it puts into the lists. -/
def Enrols {β : Type} (act : Act β) : Prop :=
  ∃ entered, Enters act entered

end LeafHub
