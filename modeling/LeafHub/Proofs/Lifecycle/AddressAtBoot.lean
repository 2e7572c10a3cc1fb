import Mathlib.Data.List.Induction
import LeafHub.Proofs.Hub.Station
import LeafHub.Proofs.Lifecycle.BootPoint
import LeafHub.Proofs.Routine.Watch

namespace LeafHub

open Hub Routine

namespace Station

variable {σ α : Type} {station : Station} {stage : Stage} {setting : UInt16} {hub : Hub} {id : LeafId}

/-- The watch over the entries of the two leaves: all transfers go to the address. -/
def watch (station : Station) (setting : UInt16) : Watch Unit :=
  .ofActs fun act hub => Adds (station.GoesTo setting) hub (act.run hub).2

/-- What the class of a leaf does in a phase. It makes transfers to the address only, and its answer says to which stage
that leads. -/
structure Leads (station : Station) (setting : UInt16) (stage : Stage) (next : Except Fault Unit → Stage) (phase : Phase)
    (id : LeafId) (act : Act (Except Fault Unit)) : Prop where
  calls : ∀ {hub}, station.At stage hub → ∀ σ : Type,
    (calls phase id (hub.leaf id).leafClass.callbacks : Routine σ (Except Fault Unit)) = liftM act
  adds : ∀ {hub}, station.At stage hub → Adds (station.GoesTo setting) hub (act.run hub).2
  next : ∀ {hub}, station.At stage hub → station.At (next (act.run hub).1) (act.run hub).2

section Entries

variable {next : Except Fault Unit → Stage} {act : Act (Except Fault Unit)} {phase : Phase}

theorem guards_calm {act : Act α} (calm : act.Keeps Calm) (here : station.At stage hub) :
    (liftM act : Routine σ α).Guards (station.watch setting) (fun _ _ => station.At stage) () hub :=
  guards_act (adds_of_calm (calm hub) setting) fun _ => here.calm (calm hub)

theorem guards_holding {body : Routine σ (Except Fault Unit)} (here : station.At stage hub)
    (guards : ∀ hub, station.At stage hub →
      body.Guards (station.watch setting) (fun outcome _ => station.At (next outcome)) () hub) :
    (holding [id] body).Guards (station.watch setting) (fun outcome _ => station.At (next outcome)) () hub := by
  unfold holding
  refine guards_bind (guards_calm (passage_calm.each calm_retain _) here) fun _ _ hub here => ?_
  refine guards_bind (guards hub here) fun _ _ hub here => ?_
  refine guards_bind (guards_calm (passage_calm.each calm_release _) here) fun _ _ hub here => ?_
  exact here

theorem Leads.callClass (leads : station.Leads setting stage next phase id act) (here : station.At stage hub) :
    (callClass phase id : Routine σ (Except Fault Unit)).Guards (station.watch setting)
      (fun outcome _ => station.At (next outcome)) () hub := by
  rw [callClass_eq]
  refine ⟨adds_of_calm (passage_calm.refl hub) setting, fun _ => ?_⟩
  show Guards (station.watch setting) _ (Routine.calls phase id (hub.leaf id).leafClass.callbacks) () hub
  rw [leads.calls here σ]
  exact guards_act (leads.adds here) fun _ => leads.next here

theorem Leads.initLeaf (leads : station.Leads setting stage next .init id act) (here : station.At stage hub) :
    (bootAction (.initLeaf id) : Routine σ (Except Fault Unit)).Guards (station.watch setting)
      (fun outcome _ => station.At (next outcome)) () hub := by
  refine guards_holding here fun hub here => ?_
  refine guards_bind (guards_calm (calm_beginInit id) here) fun _ _ hub here => ?_
  refine guards_bind (leads.callClass here) fun outcome _ hub here => ?_
  refine guards_bind (guards_calm (cataloguing_calm.endInit calm_marked id outcome) here) fun _ _ hub here => ?_
  exact here

/-- A start that is refused leads nowhere. -/
theorem Leads.startLeaf (leads : station.Leads setting stage next .start id act) (refused : next (.error .notReady) = stage)
    (here : station.At stage hub) : (bootAction (.startLeaf id) : Routine σ (Except Fault Unit)).Guards (station.watch setting)
      (fun outcome _ => station.At (next outcome)) () hub := by
  unfold bootAction
  refine guards_bind (guards_calm passage_calm.get here) fun answer _ hub here => ?_
  dsimp only
  split
  · refine guards_holding here fun hub here => ?_
    refine guards_bind (guards_calm (cataloguing_calm.beginStart id) here) fun ready _ hub here => ?_
    split
    · refine guards_bind (leads.callClass here) fun outcome _ hub here => ?_
      refine guards_bind (guards_calm (cataloguing_calm.endStart calm_marked id outcome) here) fun _ _ hub here => ?_
      exact here
    · show station.At (next (.error .notReady)) hub
      rwa [refused]
  · refine guards_bind (guards_calm (calm_log _ _) here) fun _ _ hub here => ?_
    show station.At (next (.error .notReady)) hub
    rwa [refused]

theorem At.stands (here : station.At stage hub) : station.Stands hub := by
  cases stage with
  | bare | posted | loaded => exact here.1

theorem leads_initPad (station : Station) :
    station.Leads 0x20 .bare (fun _ => .posted) .init station.pad (keypadPhase .init station.pad).run where
  calls := fun here _ => by
    rw [here.stands.callbacks]
    rfl
  adds := fun here => here.init.1
  next := fun here => here.init.2

theorem leads_startPad (station : Station) (setting : UInt16) (stage : Stage) :
    station.Leads setting stage (fun _ => stage) .start station.pad (keypadPhase .start station.pad).run where
  calls := fun here _ => by
    rw [here.stands.callbacks]
    rfl
  adds := fun _ => adds_of_calm (calm_startKeypad station.pad _) setting
  next := fun here => here.calm (calm_startKeypad station.pad _)

theorem At.served (here : station.At stage hub) (early : stage ≠ .loaded) : station.Served hub := by
  cases stage with
  | bare | posted => exact here.2.1
  | loaded => exact absurd rfl early

theorem leads_initKeeper (station : Station) (setting : UInt16) (early : stage ≠ .loaded) :
    station.Leads setting stage (fun _ => stage) .init station.keeper (settingsPhase .init station.keeper).run where
  calls := fun here _ => by
    rw [(here.served early).callbacks]
    rfl
  adds := fun _ => adds_of_calm (calm_initSettingsLeaf station.keeper _) setting
  next := fun here => here.calm (calm_initSettingsLeaf station.keeper _)

theorem leads_startKeeper (station : Station) :
    station.Leads 0x20 .posted .ofLoad .start station.keeper (settingsPhase .start station.keeper).run where
  calls := fun here _ => by
    rw [(here.served fun same => by cases same).callbacks]
    rfl
  adds := fun here => here.load.1
  next := fun here => here.load.2

end Entries

section Boot

variable {app : Application σ} {table : BootTable} {world between : World σ} {steps : List BootStep} {owner : String}
  {entry : BootEntry} {later : List BootEntry}

/-- The address is at the stage that it was at. -/
def Spares (station : Station) (hub after : Hub) : Prop :=
  ∀ stage, station.At stage hub → station.At stage after

/-- Entries that are about neither leaf may scan the keypad, and beside that they spare the address. -/
def LeftAlone (station : Station) (app : Application σ) (table : BootTable) (world : World σ) : Prop :=
  ∀ steps entry inner here, Within app table world steps entry inner here → entry.concerns station.pad = false →
    entry.concerns station.keeper = false →
      inner.Takes (here.hub.ScansKeys station.pad) ∨ station.Spares here.hub (inner.step app here).2.hub

/-- The table defines the two leaves. -/
structure Defined (station : Station) (owner : String) (table : BootTable) (hub : Hub) : Prop where
  built : table.Built hub
  pad : .initOf station.pad station.name ∈ table.entries
  keeper : .initOf station.keeper owner ∈ table.entries

/-- The settings leaf has been started. -/
def Started (station : Station) (owner : String) (steps : List BootStep) : Prop :=
  ∃ step ∈ steps, step.entry = .startOf station.keeper owner ∧ step.deed.outcome = .ok ()

/-- The stages that steps of a boot can lead to. -/
def Reaches (station : Station) (owner : String) (steps : List BootStep) : Stage → Prop
  | .bare => .initOf station.pad station.name ∉ steps.map BootStep.entry ∧
      .startOf station.keeper owner ∉ steps.map BootStep.entry
  | .posted => .initOf station.pad station.name ∈ steps.map BootStep.entry ∧ ¬station.Started owner steps
  | .loaded => station.Started owner steps

theorem Started.mem (started : station.Started owner steps) :
    .startOf station.keeper owner ∈ steps.map BootStep.entry := by
  obtain ⟨step, member, entry, _⟩ := started
  exact entry ▸ List.mem_map_of_mem member

theorem started_concat {step : BootStep} : station.Started owner (steps ++ [step]) ↔
    station.Started owner steps ∨ step.entry = .startOf station.keeper owner ∧ step.deed.outcome = .ok () := by
  simp only [Started, List.mem_append, List.mem_singleton, or_and_right, exists_or, exists_eq_left]

/-- A step that neither inits the keypad nor starts the settings leaf. -/
theorem Reaches.other (reaches : station.Reaches owner steps stage) {step : BootStep}
    (noInit : step.entry ≠ .initOf station.pad station.name) (noStart : step.entry ≠ .startOf station.keeper owner) :
    station.Reaches owner (steps ++ [step]) stage := by
  have started : station.Started owner (steps ++ [step]) ↔ station.Started owner steps := by
    simp only [started_concat, noStart, false_and, or_false]
  cases stage with
  | bare => simpa [Reaches, noInit.symm, noStart.symm] using reaches
  | posted => simpa [Reaches, noInit.symm, started] using reaches
  | loaded => exact started.mpr reaches

/-- The transfers of an entry go to the address of the stage, and the entry leads to a stage that its step reaches. -/
def Passes (station : Station) (owner : String) (steps : List BootStep) (entry : BootEntry) (stage : Stage) (hub : Hub) :
    Prop :=
  ∃ next : Except Fault Unit → Stage,
    (∀ σ : Type, (bootAction entry.action : Routine σ (Except Fault Unit)).Guards
      (station.watch (station.address stage)) (fun outcome _ => station.At (next outcome)) () hub) ∧
    ∀ deed, station.Reaches owner (steps ++ [⟨entry, deed⟩]) (next deed.outcome)

theorem passes_startPad (reaches : station.Reaches owner steps stage) (here : station.At stage hub)
    (apart : station.keeper ≠ station.pad) :
    station.Passes owner steps (.startOf station.pad station.name) stage hub :=
  ⟨fun _ => stage, fun _ => (leads_startPad station _ stage).startLeaf rfl here, fun _ =>
    reaches.other (by simp [BootEntry.initOf, BootEntry.startOf]) (by simp [BootEntry.startOf, apart.symm])⟩

section Own

variable (defined : station.Defined owner table world.hub) (reaches : station.Reaches owner steps stage)
  (here : station.At stage hub)

include defined reaches here

theorem passes_initPad (split : table.schedule = steps.map BootStep.entry ++ .initOf station.pad station.name :: later) :
    station.Passes owner steps (.initOf station.pad station.name) stage hub := by
  have none : .startOf station.keeper owner ∉ steps.map BootStep.entry := defined.built.no_start_before_init split
  cases stage with
  | bare =>
    refine ⟨fun _ => .posted, fun _ => (leads_initPad station).initLeaf here, fun deed => ⟨by simp, fun started => ?_⟩⟩
    obtain before | ⟨same, _⟩ := started_concat.mp started
    · exact none before.mem
    · simp [BootEntry.initOf, BootEntry.startOf] at same
  | posted => exact absurd reaches.1 (defined.built.once_of_concerns defined.pad split (decide_eq_true rfl))
  | loaded => exact absurd reaches.mem none

/-- No start comes before an init, so the stored address is not loaded yet. -/
theorem passes_initKeeper (apart : station.keeper ≠ station.pad)
    (split : table.schedule = steps.map BootStep.entry ++ .initOf station.keeper owner :: later) :
    station.Passes owner steps (.initOf station.keeper owner) stage hub := by
  have early : stage ≠ .loaded := by
    rintro rfl
    exact defined.built.no_start_before_init split reaches.mem
  exact ⟨fun _ => stage, fun _ => (leads_initKeeper station _ early).initLeaf here, fun _ =>
    reaches.other (by simp [BootEntry.initOf, apart]) (by simp [BootEntry.initOf, BootEntry.startOf])⟩

/-- The keypad has its cells when the settings leaf is started. -/
theorem passes_startKeeper (split : table.schedule = steps.map BootStep.entry ++ .startOf station.keeper owner :: later) :
    station.Passes owner steps (.startOf station.keeper owner) stage hub := by
  have inited : .initOf station.pad station.name ∈ steps.map BootStep.entry :=
    defined.built.init_before_start defined.pad split
  have once : .startOf station.keeper owner ∉ steps.map BootStep.entry :=
    defined.built.once_of_concerns defined.keeper split (decide_eq_true rfl)
  cases stage with
  | bare => exact absurd inited reaches.1
  | posted =>
    refine ⟨.ofLoad, fun _ => (leads_startKeeper station).startLeaf rfl here, fun deed => ?_⟩
    cases outcome : deed.outcome with
    | ok => exact started_concat.mpr (.inr ⟨rfl, outcome⟩)
    | error fault =>
      refine ⟨by simp [inited], fun started => ?_⟩
      obtain before | ⟨_, ok⟩ := started_concat.mp started
      · exact once before.mem
      · rw [outcome] at ok
        cases ok
  | loaded => exact absurd reaches.mem once

theorem passes_own (apart : station.keeper ≠ station.pad)
    (split : table.schedule = steps.map BootStep.entry ++ entry :: later)
    (own : entry.concerns station.pad = true ∨ entry.concerns station.keeper = true) :
    station.Passes owner steps entry stage hub := by
  have member : entry ∈ table.schedule := split ▸ List.mem_append_right _ List.mem_cons_self
  obtain pad | keeper := own
  · obtain rfl | rfl := defined.built.own_of_concerns defined.pad member pad
    · exact passes_initPad defined reaches here split
    · exact passes_startPad reaches here apart
  · obtain rfl | rfl := defined.built.own_of_concerns defined.keeper member keeper
    · exact passes_initKeeper defined reaches here apart split
    · exact passes_startKeeper defined reaches here split

end Own

/-- An own entry leads to a stage that its step reaches. -/
theorem Passes.step {deed : Deed} (passes : station.Passes owner steps entry stage world.hub)
    (carries : Carries app entry.action world deed between) : ∃ stage,
      station.Reaches owner (steps ++ [⟨entry, deed⟩]) stage ∧ station.At stage between.hub := by
  obtain ⟨next, guards, reaches⟩ := passes
  obtain ⟨limit, ran⟩ := returns_bootAction_iff.mpr ⟨deed, rfl, carries⟩
  have done := Watch.guards_run app (guards σ) limit
  rw [ran] at done
  exact ⟨_, reaches deed, done⟩

/-- Every point of another entry is at the stage that the entry is come to at. -/
theorem LeftAlone.spares (left : station.LeftAlone app table world) {opened : Hub} (opens : world.hub.Opens table opened)
    (split : table.schedule = steps.map BootStep.entry ++ entry :: later)
    (boots : Boots app steps (entered table world opened) between)
    (other : ¬(entry.concerns station.pad = true ∨ entry.concerns station.keeper = true))
    (here : station.At stage between.hub) (limit : Nat) :
    station.At stage ((bootAction entry.action).run app limit between).2.hub := by
  obtain ⟨noPad, noKeeper⟩ := not_or.mp other
  induction limit with
  | zero => exact here
  | succ limit ih =>
    rw [run_next]
    obtain ⟨_, _, _, same, scans⟩ | spares := left steps entry _ _ ⟨opened, opens, later, between, limit, split, boots, rfl⟩
      (Bool.eq_false_of_not_eq_true noPad) (Bool.eq_false_of_not_eq_true noKeeper)
    · rw [same]
      exact (stays_of_scans scans ih).2
    · exact spares stage ih

theorem At.apart (here : station.At .bare hub) : station.keeper ≠ station.pad := by
  obtain ⟨_, served, bare⟩ := here
  obtain ⟨_, holds⟩ := bare.holds
  exact served.apart holds

section Run

variable (defined : station.Defined owner table world.hub) (bare : station.At .bare world.hub)
  (left : station.LeftAlone app table world)

include defined bare left

/-- The steps of a boot lead to one of their stages. -/
theorem reached {opened : Hub} {rest : List BootEntry} (opens : world.hub.Opens table opened)
    (split : table.schedule = steps.map BootStep.entry ++ rest) (boots : Boots app steps (entered table world opened) between) :
    ∃ stage, station.Reaches owner steps stage ∧ station.At stage between.hub := by
  -- from the last step back: which stage a step starts from is decided by the steps before it
  induction steps using List.reverseRecOn generalizing rest between with
  | nil =>
    cases boots
    have held := bare.calm (opens.keeps cataloguing_calm.registering calm_retain)
    exact ⟨.bare, ⟨List.not_mem_nil, List.not_mem_nil⟩, held.calm (calm_log _ _ _)⟩
  | append_singleton steps step ih =>
    rw [List.map_append, List.append_assoc] at split
    obtain ⟨start, before, boots⟩ := boots.of_append
    obtain ⟨stage, reaches, here⟩ := ih split before
    cases boots with
    | @cons _ _ _ between _ carries none =>
      cases none
      have finished {stage : Stage} (here : station.At stage between.hub) :
          station.At stage (between.after step.finish).hub :=
        here.calm (cataloguing_calm.finish calm_release step _)
      by_cases own : step.entry.concerns station.pad = true ∨ step.entry.concerns station.keeper = true
      · obtain ⟨stage, reaches, here⟩ := (passes_own defined reaches here bare.apart split own).step carries
        exact ⟨stage, reaches, finished here⟩
      · obtain ⟨limit, ran⟩ := returns_bootAction_iff.mpr ⟨step.deed, rfl, carries⟩
        have spared := left.spares opens split before own here limit
        rw [ran] at spared
        refine ⟨stage, reaches.other (fun same => own (.inl ?_)) (fun same => own (.inr ?_)), finished spared⟩
        · exact same ▸ decide_eq_true rfl
        · exact same ▸ decide_eq_true rfl

/-- Within every entry the transfers of the keypad go to the address of the stage that the steps before have led to. -/
theorem addressed {inner : Routine σ (Except Fault Unit)} {now : World σ}
    (within : Within app table world steps entry inner now) (attends : inner.Takes (now.hub.Attends station.pad)) :
    ∃ stage, station.Reaches owner steps stage ∧
      Adds (station.GoesTo (station.address stage)) now.hub (inner.step app now).2.hub := by
  obtain ⟨opened, opens, later, between, limit, split, boots, ran⟩ := within
  obtain ⟨stage, reaches, here⟩ := reached defined bare left opens split boots
  refine ⟨stage, reaches, ?_⟩
  obtain ⟨_, _, _, rfl, attends⟩ := attends
  by_cases own : entry.concerns station.pad = true ∨ entry.concerns station.keeper = true
  · obtain ⟨_, guards, _⟩ := passes_own defined reaches here bare.apart split own
    have point := Watch.guards_run app (guards σ) limit
    rw [ran] at point
    exact point.1
  · have spared := left.spares opens split boots own here limit
    rw [ran] at spared
    exact spared.attends attends

/-- A boot that does not report a failure of the start of the settings leaf has brought the stored address. -/
theorem loaded_of_returns (free : world.hub.leafListHeld = false) {report : BootReport} {after : World σ}
    (returns : (boot table).Returns app world report after)
    (fine : ∀ fault, ((BootEntry.startOf station.keeper owner).label, fault) ∉ report.failures) :
    station.At .loaded after.hub := by
  obtain ⟨opened, opens, _, begins⟩ := opens_bootInitialise free
  obtain ⟨steps, last, order, boots, rfl, rfl⟩ := (returns_boot_iff begins).mp returns
  have listed : .startOf station.keeper owner ∈ steps.map BootStep.entry := by
    have own := defined.built.own_schedule defined.keeper
    have member : .startOf station.keeper owner ∈ table.schedule.filter (BootEntry.concerns station.keeper) := by
      rw [own]
      simp
    rw [order]
    exact (List.mem_filter.mp member).1
  have started : station.Started owner steps := by
    obtain ⟨step, member, entry⟩ := List.mem_map.mp listed
    cases outcome : step.deed.outcome with
    | ok => exact ⟨step, member, entry, outcome⟩
    | error fault =>
      have failed : step.failure? = some ((BootEntry.startOf station.keeper owner).label, fault) := by
        rw [BootStep.failure?, outcome, entry]
      exact absurd (List.mem_append_right _ (List.mem_filterMap.mpr ⟨step, member, failed⟩)) (fine fault)
  obtain ⟨stage, reaches, here⟩ := reached defined bare left opens ((order.symm).trans (List.append_nil _).symm) boots
  cases stage with
  | bare => exact absurd listed reaches.2
  | posted => exact absurd started reaches.2
  | loaded => exact here.calm (calm_log _ _ _)

end Run

/-- The stored address of a keypad is in effect from the start of the settings leaf on. Until then, in its init at the
least, the keypad uses the address that every keypad starts with. -/
theorem stored_address_waits_for_start (defined : station.Defined owner table world.hub)
    (free : world.hub.leafListHeld = false) (bare : station.At .bare world.hub) (left : station.LeftAlone app table world) :
    (∀ limit rest now, (boot table).run app limit world = (rest, now) →
      Adds Silent now.hub (rest.step app now).2.hub ∨
      ∃ steps entry inner next, Within app table world steps entry inner now ∧ inner.answer? = none ∧
        rest = inner.bind next ∧ (entry = .initOf station.pad station.name → ¬station.Started owner steps) ∧
        (rest.Takes (now.hub.Attends station.pad) →
          (¬station.Started owner steps → Adds (station.GoesTo 0x20) now.hub (rest.step app now).2.hub) ∧
          (station.Started owner steps → Adds (station.GoesTo station.setting) now.hub (rest.step app now).2.hub))) ∧
    ∀ report after, (boot table).Returns app world report after →
      (∀ fault, ((BootEntry.startOf station.keeper owner).label, fault) ∉ report.failures) →
        station.At .loaded after.hub := by
  have silent : Registering (Adds Silent) := (cataloguing_adds silent_log).registering
  have covered : Covered (Adds Silent) app (Inside (Within app table world)) (boot table) world :=
    covered_boot silent (fun id hub => (calm_retain id hub).silent) (fun id hub => (calm_release id hub).silent) free
  refine ⟨fun limit rest now ran => (covered limit rest now ran).imp_right ?_, fun report after =>
    loaded_of_returns defined bare left free⟩
  rintro ⟨steps, entry, inner, _, next, within, unfinished, same⟩
  obtain ⟨rfl, rfl⟩ := Prod.mk.inj same
  refine ⟨steps, entry, inner, next, within, unfinished, rfl, ?_, fun attends => ?_⟩
  · rintro rfl started
    obtain ⟨_, _, _, _, _, split, _⟩ := within
    exact defined.built.no_start_before_init split started.mem
  · rw [step_bind_hub unfinished]
    obtain ⟨stage, reaches, adds⟩ := addressed defined bare left within (takes_of_bind unfinished attends)
    cases stage with
    | bare => exact ⟨fun _ => adds, fun started => absurd started.mem reaches.2⟩
    | posted => exact ⟨fun _ => adds, fun started => absurd started reaches.2⟩
    | loaded => exact ⟨fun waits => absurd reaches waits, fun _ => adds⟩

end Boot

/-- A keypad and a settings leaf. The store of the settings leaf holds an address for the keypad. -/
def storedHub : Hub :=
  { fresh .standard with
    leaves := ⟨#[.fresh ⟨"keypad", none, .keypad⟩ "kp" (some (.keypadOn "b")),
      .fresh ⟨"settings", none, .settings⟩ "settings" (some (.settings "nvs"))]⟩
    media := [("nvs", ⟨Store.reached [.write "app" "kp_addr" [0x21, 0]], .none, 0⟩)] }

def storedWorld : World Unit := ⟨storedHub, ()⟩

def storedStation : Station :=
  ⟨0, "kp", "b", 1, "nvs", 0x21⟩

def storedTable : BootTable :=
  (BootTable.empty.defineLeaf 0 "kp").defineLeaf 1 "settings"

theorem schedule_storedTable : storedTable.schedule =
    [.initOf 0 "kp", .initOf 1 "settings", .startOf 0 "kp", .startOf 1 "settings"] := by
  simp [storedTable, BootTable.schedule, BootTable.defineLeaf, BootTable.add, BootTable.empty, List.mergeSort,
    List.MergeSort.Internal.splitInTwo, BootEntry.initOf, BootEntry.startOf, BootBand.leafInit, BootBand.leafStart]

/-- The boot of the two leaves, and then a hook. -/
def scannedTable : BootTable :=
  storedTable.defineHook 80 "scan" 0

theorem schedule_scannedTable : scannedTable.schedule =
    [.initOf 0 "kp", .initOf 1 "settings", .startOf 0 "kp", .startOf 1 "settings", ⟨80, "scan", .hook 0⟩] := by
  simp [scannedTable, storedTable, BootTable.schedule, BootTable.defineHook, BootTable.defineLeaf, BootTable.add,
    BootTable.empty, List.mergeSort, List.MergeSort.Internal.splitInTwo, BootEntry.initOf, BootEntry.startOf,
    BootBand.leafInit, BootBand.leafStart]

/-- Its hooks scan the keypad. -/
def scanning : Application Unit :=
  { Application.silent with
    hook := fun _ => do
      discard (Hub.keypadCommand 0 ["scan"])
      return .ok () }

/-- The transfers of a hub. -/
def transfers (hub : Hub) : List (String × UInt8 × Transfer) :=
  hub.journal.toList.filterMap fun
    | .bus name address transfer => some (name, address, transfer)
    | _ => none

/-- There is a setting already of the name that the one for the address gets. -/
def namesakeWorld : World Unit where
  hub := { storedHub with
    cells := ⟨#[⟨"kp_addr", .uint16, .uint16 0x22, none⟩]⟩
    settingList := [0] }
  own := ()

/-- The keypad is configured at another address than the stored one. A setting of the same name keeps it there. -/
theorem configured_before_load : (storedHub.medium "nvs").store.get? "app" "kp_addr" = some [0x21, 0] ∧
    Kind.uint16.ofRaw [0x21, 0] = .ok (.uint16 0x21) ∧
    ((boot storedTable).run .silent 100 storedWorld).1.answer? = some ⟨4, []⟩ ∧
    transfers ((boot storedTable).run .silent 100 storedWorld).2.hub = [("b", 0x20, .write [0xFF])] ∧
    transfers ((boot scannedTable).run scanning 100 namesakeWorld).2.hub =
      [("b", 0x20, .write [0xFF]), ("b", 0x20, .read 0xFF)] := by
  unfold boot
  rw [schedule_storedTable, schedule_scannedTable]
  decide +kernel

theorem bare_storedHub : storedStation.At .bare storedHub := by
  have sound : (storedHub.medium "nvs").store.Sound := Store.sound_reached [.write "app" "kp_addr" [0x21, 0]]
  refine ⟨⟨rfl, rfl⟩, ⟨rfl, rfl, sound, rfl, [0x21, 0], by decide +kernel, by decide +kernel⟩, ⟨false, rfl⟩, ?_⟩
  exact fun cell listed => absurd listed List.not_mem_nil

theorem leftAlone_scanning : storedStation.LeftAlone scanning scannedTable storedWorld := by
  intro steps entry inner now within noPad noKeeper
  obtain ⟨_, _, later, between, limit, split, _, ran⟩ := within
  have member : entry ∈ scannedTable.entries :=
    scannedTable.stablySorted_schedule.perm.mem_iff.mp (split ▸ List.mem_append_right _ List.mem_cons_self)
  have entries : scannedTable.entries =
      [.initOf 0 "kp", .startOf 0 "kp", .initOf 1 "settings", .startOf 1 "settings", ⟨80, "scan", .hook 0⟩] := rfl
  rw [entries] at member
  simp only [List.mem_cons, List.not_mem_nil, or_false] at member
  obtain rfl | rfl | rfl | rfl | rfl := member
  · exact absurd noPad (by decide)
  · exact absurd noPad (by decide)
  · exact absurd noKeeper (by decide)
  · exact absurd noKeeper (by decide)
  · have spares {hub after : Hub} (same : after = hub) : storedStation.Spares hub after := by
      rw [same]
      exact fun _ here => here
    obtain _ | _ | limit := limit
    · cases ran
      exact .inr (spares rfl)
    · cases ran
      by_cases alive : now.hub.isAlive 0 = true
      · exact .inl ⟨_, Hub.keypadCommand 0 ["scan"], _, rfl, .command alive⟩
      · exact .inr (spares (run_keypadCommand_of_gone alive ["scan"]))
    · have done : (bootAction (.hook 0) : Routine Unit (Except Fault Unit)).run scanning (limit + 2) between =
          (Routine.done (.ok ()), between.after (Hub.keypadCommand 0 ["scan"])) := run_done scanning limit _ _
      rw [done] at ran
      cases ran
      exact .inr (spares rfl)

theorem stored_address_waits_for_start_scanning :
    transfers ((boot scannedTable).run scanning 100 storedWorld).2.hub =
        [("b", 0x20, .write [0xFF]), ("b", 0x21, .read 0xFF)] ∧
      ∃ after, (boot scannedTable).Returns scanning storedWorld ⟨5, []⟩ after ∧ storedStation.At .loaded after.hub := by
  have built : scannedTable.Built storedHub :=
    .defineHook _ _ _ (.defineLeaf ⟨"settings", none, .settings⟩ "settings" (some (.settings "nvs"))
      (.defineLeaf ⟨"keypad", none, .keypad⟩ "kp" (some (.keypadOn "b")) (.empty { storedHub with leaves := .empty })))
  have ended : ((boot scannedTable).run scanning 100 storedWorld).1.answer? = some ⟨5, []⟩ := by
    unfold boot
    rw [schedule_scannedTable]
    decide +kernel
  have defined : storedStation.Defined "settings" scannedTable storedWorld.hub := ⟨built, by decide, by decide⟩
  obtain ⟨_, loaded⟩ := stored_address_waits_for_start defined rfl bare_storedHub leftAlone_scanning
  have returns := run_eq_of_answer? ended
  refine ⟨?_, _, ⟨100, returns⟩, loaded _ _ ⟨100, returns⟩ fun fault => List.not_mem_nil⟩
  unfold boot
  rw [schedule_scannedTable]
  decide +kernel

end Station

end LeafHub
