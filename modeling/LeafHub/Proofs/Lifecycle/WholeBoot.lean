import LeafHub.Proofs.Lifecycle.Enlisted

namespace LeafHub

variable {σ : Type}

namespace Hub

/-- The hub while a boot holds on to the leaves of its table. -/
def holdingFor (hub : Hub) (table : BootTable) : Hub :=
  ((table.entries.forM fun entry => entry.action.leaf?.forM retain : Act Unit).run hub).2

/-- What a boot makes of a hub before it comes to the entries. -/
inductive Opens (table : BootTable) (hub : Hub) : Hub → Prop
  | already : hub.initialised = true → Opens table hub (hub.holdingFor table)
  | first {opened} : hub.initialised = false → initialise.run.run (hub.holdingFor table) = (.ok (), opened) →
      Opens table hub opened

theorem kept_holdingFor {R : Hub → Hub → Prop} (passage : Passage R) (retained : ∀ id, Act.Keeps R (retain id))
    (hub : Hub) (table : BootTable) : R hub (hub.holdingFor table) := by
  have held (entry : BootEntry) : Act.Keeps R (entry.action.leaf?.forM retain : Act PUnit) :=
    passage.eachOption retained _
  exact passage.each held table.entries hub

theorem catalogue_holdingFor (hub : Hub) (table : BootTable) :
    (hub.holdingFor table).initialised = hub.initialised ∧ (hub.holdingFor table).leafListHeld = hub.leafListHeld := by
  have passage : Passage fun hub after : Hub =>
      after.initialised = hub.initialised ∧ after.leafListHeld = hub.leafListHeld :=
    ⟨fun _ => ⟨rfl, rfl⟩, fun one two => ⟨two.1.trans one.1, two.2.trans one.2⟩⟩
  exact kept_holdingFor passage (fun _ _ => ⟨rfl, rfl⟩) hub table

theorem Opens.keeps {R : Hub → Hub → Prop} (lists : Registering R) (retained : ∀ id, Act.Keeps R (retain id))
    {hub opened : Hub} {table : BootTable} (opens : hub.Opens table opened) : R hub opened := by
  have held := kept_holdingFor lists.toPassage retained hub table
  cases opens with
  | already => exact held
  | first _ done => exact lists.trans held (lists.initialise.of_run done)

theorem Opens.aloof {hub opened : Hub} {table : BootTable} (opens : hub.Opens table opened) : hub.Aloof opened :=
  opens.keeps frame_aloof.cataloguing.registering frame_aloof.retained

theorem opens_bootInitialise {hub : Hub} {table : BootTable} (free : hub.leafListHeld = false) :
    ∃ opened, hub.Opens table opened ∧ opened.initialised = true ∧
      Routine.bootInitialise.run (hub.holdingFor table) = (.empty, opened) := by
  obtain ⟨same, held⟩ := catalogue_holdingFor hub table
  rw [Routine.bootInitialise, Act.run_bind_of (Act.run_get _), same]
  cases before : hub.initialised with
  | true => exact ⟨_, .already before, same.trans before, rfl⟩
  | false =>
    obtain ⟨lines, done⟩ := run_initialise (held.trans free)
    refine ⟨_, .first before done, rfl, ?_⟩
    rw [if_neg Bool.false_ne_true, StateT.run_bind]
    have ran : StateT.run (ExceptT.run initialise) (hub.holdingFor table) = _ := done
    rw [ran]
    rfl

end Hub

namespace Routine

open Hub

variable {app : Application σ} {table : BootTable} {world after : World σ}

/-- The world in which a boot comes to its entries. -/
def entered (table : BootTable) (world : World σ) (opened : Hub) : World σ :=
  World.after { world with hub := opened } (Hub.log .info s!"boot: {table.entries.length} entries")

/-- The way to the entries. -/
theorem after_begun (world : World σ) {begun : BootReport} {opened : Hub}
    (opens : bootInitialise.run (world.hub.holdingFor table) = (begun, opened)) :
    (bootInitialise.run (world.after (table.entries.forM fun entry =>
      entry.action.leaf?.forM Hub.retain : Act Unit)).hub).1 = begun ∧
    ((world.after (table.entries.forM fun entry => entry.action.leaf?.forM Hub.retain : Act Unit)).after
      bootInitialise).after (Hub.log .info s!"boot: {table.entries.length} entries") = entered table world opened := by
  refine ⟨congrArg Prod.fst opens, ?_⟩
  show (World.after { world with hub := (bootInitialise.run (world.hub.holdingFor table)).2 } _ : World σ) = _
  rw [opens]
  rfl

theorem returns_boot_iff {begun report : BootReport} {opened : Hub}
    (opens : bootInitialise.run (world.hub.holdingFor table) = (begun, opened)) :
    (boot table).Returns app world report after ↔
      ∃ (steps : List BootStep) (last : World σ), steps.map BootStep.entry = table.schedule ∧
        Boots app steps (entered table world opened) last ∧ report = begun.extend steps ∧
        after = last.after (Hub.log .info s!"boot: done, {report.failures.length} failures") := by
  obtain ⟨start, entries⟩ := after_begun world opens
  unfold boot
  rw [returns_act_bind_iff, returns_act_bind_iff, returns_act_bind_iff, entries, start, returns_bind_iff]
  simp only [returns_act_bind_iff, returns_pure_iff, returns_bootEntries_iff]
  constructor
  · rintro ⟨_, last, ⟨steps, order, boots, rfl⟩, rfl, rfl⟩
    exact ⟨steps, last, order, boots, rfl, rfl⟩
  · rintro ⟨steps, last, order, boots, rfl, rfl⟩
    exact ⟨_, last, ⟨steps, order, boots, rfl⟩, rfl, rfl⟩

/-- Whatever entry the boot comes to, the class or hook that it calls answers. -/
def Responsive (app : Application σ) (table : BootTable) (world : World σ) : Prop :=
  ∀ opened, world.hub.Opens table opened → ∀ (steps : List BootStep) (entry : BootEntry) rest between,
    table.schedule = steps.map BootStep.entry ++ entry :: rest → Boots app steps (entered table world opened) between →
      ∃ deed after, Carries app entry.action between deed after

theorem Answering.responsive (answers : Answering app) (table : BootTable) (world : World σ) :
    Responsive app table world :=
  fun _ _ _ entry _ between _ _ => answers.carries entry.action between

/-- What the deeds of a leaf's entries make of the leaf. -/
structure LeafOutcome (steps : List BootStep) (hub : Hub) (id : LeafId) (name : String) : Prop where
  skipped : ⟨.startOf id name, .skipped⟩ ∈ steps ↔ ∃ fault, ⟨.initOf id name, .answered (.error fault)⟩ ∈ steps
  ready : (hub.leaf id).ready = true ↔ ⟨.initOf id name, .answered (.ok ())⟩ ∈ steps
  running : (hub.leaf id).running = true ↔
    ⟨.initOf id name, .answered (.ok ())⟩ ∈ steps ∧ ⟨.startOf id name, .answered (.ok ())⟩ ∈ steps

/-- A boot that was carried out as its table says. -/
structure WholeBoot (app : Application σ) (table : BootTable) (world : World σ) (report : BootReport) (after : World σ)
    (steps : List BootStep) : Prop where
  order : StablySorted table.entries (steps.map BootStep.entry)
  bands : (steps.map BootStep.entry).Pairwise fun earlier later =>
    ∀ one ∈ earlier.action.band?, ∀ other ∈ later.action.band?, one ≤ other
  carried : ∃ opened last, world.hub.Opens table opened ∧ opened.initialised = true ∧
    Boots app steps (entered table world opened) last ∧
    after = last.after (Hub.log .info s!"boot: done, {report.failures.length} failures")
  /-- A class entry that has been carried out leaves its class at the end of the list of classes. -/
  registered : ∀ leafClass before deed between, Carries app (.registerClass leafClass) before deed between →
    between.hub.classes = before.hub.classes ++ [leafClass]
  /-- In the end the list of classes has the classes of the table in the order of the schedule, whatever else was
  registered, unless a class or a hook has initialised the hub. -/
  classes : app.Uses (Act.Keeps Enlists) →
    (steps.filterMap (·.entry.action.leafClass?)).Sublist after.hub.classes
  leaves : ∀ id name, .initOf id name ∈ table.entries → LeafOutcome steps after.hub id name
  ran : report.ran = table.entries.length
  failures : report.failures = steps.filterMap BootStep.failure?

/-- The steps of a leaf are its init and its start. -/
theorem own_steps {hub : Hub} {steps : List BootStep} (built : table.Built hub)
    (order : steps.map BootStep.entry = table.schedule) {id : LeafId} {name : String}
    (defined : .initOf id name ∈ table.entries) :
    ∃ first second, steps.filter (·.entry.concerns id) = [⟨.initOf id name, first⟩, ⟨.startOf id name, second⟩] ∧
      (∀ deed, ⟨.initOf id name, deed⟩ ∈ steps ↔ deed = first) ∧
      ∀ deed, ⟨.startOf id name, deed⟩ ∈ steps ↔ deed = second := by
  have entries : (steps.filter (·.entry.concerns id)).map BootStep.entry = [.initOf id name, .startOf id name] := by
    rw [← built.own_schedule defined, ← order, List.filter_map]
    rfl
  obtain ⟨⟨_, first⟩, others, own, rfl, more⟩ := List.map_eq_cons_iff.mp entries
  obtain ⟨⟨_, second⟩, none, rfl, rfl, nothing⟩ := List.map_eq_cons_iff.mp more
  rw [List.map_eq_nil_iff] at nothing
  subst nothing
  have member {step : BootStep} (concerns : step.entry.concerns id = true) :
      step ∈ steps ↔ step ∈ steps.filter (·.entry.concerns id) := by
    rw [List.mem_filter]
    exact ⟨fun member => ⟨member, concerns⟩, And.left⟩
  refine ⟨first, second, own, fun deed => ?_, fun deed => ?_⟩
  · rw [member (decide_eq_true rfl), own]
    simp [BootEntry.initOf, BootEntry.startOf]
  · rw [member (decide_eq_true rfl), own]
    simp [BootEntry.initOf, BootEntry.startOf]

theorem Boots.outcome {steps : List BootStep} {hub : Hub} (boots : Boots app steps world after)
    (application : app.Uses (Act.Keeps Aloof)) (built : table.Built hub)
    (order : steps.map BootStep.entry = table.schedule) {id : LeafId} {name : String}
    (defined : .initOf id name ∈ table.entries) (known : id < world.hub.leaves.size) :
    LeafOutcome steps after.hub id name := by
  obtain ⟨first, second, own, inits, starts⟩ := own_steps built order defined
  obtain ⟨rfl, outcome, rfl, standing⟩ | ⟨fault, rfl, rfl, standing⟩ := boots.standing application own known
  · obtain ⟨ready, running⟩ := Prod.mk.inj standing
    refine ⟨by simp [inits, starts], by simp [inits, ready], ?_⟩
    cases outcome <;> simp [inits, starts, running, Except.isOk, Except.toBool]
  · obtain ⟨ready, running⟩ := Prod.mk.inj standing
    exact ⟨by simp [inits, starts], by simp [inits, ready], by simp [inits, running]⟩

/-- A whole boot, whatever its classes and hooks answer as long as they leave the flags of leaves to the boot. It
returns when every class and hook that it calls does. -/
theorem boot_runs_whole (application : app.Uses (Act.Keeps Aloof)) (built : table.Built world.hub)
    (free : world.hub.leafListHeld = false) :
    (Responsive app table world → ∃ report after, (boot table).Returns app world report after) ∧
    ∀ report after, (boot table).Returns app world report after →
      ∃ steps, WholeBoot app table world report after steps := by
  obtain ⟨opened, opens, initialised, begins⟩ := opens_bootInitialise free
  constructor
  · intro responsive
    obtain ⟨steps, last, order, boots⟩ := boots_all (responsive opened opens)
    exact ⟨_, _, (returns_boot_iff begins).mpr ⟨steps, last, order, boots, rfl, rfl⟩⟩
  · intro report after returns
    obtain ⟨steps, last, order, boots, rfl, rfl⟩ := (returns_boot_iff begins).mp returns
    refine ⟨steps, ?_, ?_, ⟨opened, last, opens, initialised, boots, rfl⟩, fun _ _ _ _ carries => carries.registers,
      fun keeps => ?_, fun id name defined => ?_, ?_, ?_⟩
    · rw [order]
      exact table.stablySorted_schedule
    · rw [order]
      exact built.bands_in_order
    · have listed := boots.enlists keeps
      exact (List.sublist_append_right _ _).trans listed
    · obtain ⟨known, _⟩ := opens.aloof id (built.known defined rfl)
      obtain ⟨skipped, ready, running⟩ := boots.outcome application built order defined known
      exact ⟨skipped, ready, running⟩
    · have length := congrArg List.length order
      rw [List.length_map, table.stablySorted_schedule.perm.length_eq] at length
      exact (Nat.zero_add _).trans length
    · exact List.nil_append _

/-- Class `1` cannot be inited, and the hook fails. -/
def stumbling : Application Unit :=
  { Application.silent with
    phase := fun behaviour phase _ => return if behaviour = 1 ∧ phase = .init then .error .io else .ok ()
    hook := fun _ => return .error .deviceUnavailable }

/-- A hook and two leaves, defined before the class of one of them. -/
def stumblingTable : BootTable :=
  (((BootTable.empty.defineHook 60 "probe" 0).defineLeaf 0 "a").defineLeaf 1 "b").defineClass ⟨"c", none, .custom 0⟩

def stumblingWorld : World Unit where
  hub := { fresh .standard with
    leaves := ⟨#[.fresh ⟨"c", none, .custom 0⟩ "a" none, .fresh ⟨"d", none, .custom 1⟩ "b" none]⟩ }
  own := ()

theorem boot_runs_whole_stumbling :
    ((boot stumblingTable).run stumbling 100 stumblingWorld).1.answer? =
        some ⟨6, [("init b", .io), ("probe", .deviceUnavailable), ("start b", .notReady)]⟩ ∧
      ∃ report after steps, (boot stumblingTable).Returns stumbling stumblingWorld report after ∧
        WholeBoot stumbling stumblingTable stumblingWorld report after steps ∧
        ⟨"c", none, .custom 0⟩ ∈ after.hub.classes := by
  have application : stumbling.Uses (Act.Keeps Aloof) :=
    { Application.uses_silent with
      phase := fun _ _ _ => uses_pure _
      hook := fun _ => uses_pure _ }
  have answers : Answering stumbling :=
    { phase := fun _ _ _ _ => ⟨_, _, returns_pure_iff.mpr ⟨rfl, rfl⟩⟩
      hook := fun _ _ => ⟨_, _, returns_pure_iff.mpr ⟨rfl, rfl⟩⟩ }
  have built : stumblingTable.Built stumblingWorld.hub :=
    .defineClass _ (.defineLeaf ⟨"d", none, .custom 1⟩ "b" none
      (.defineLeaf ⟨"c", none, .custom 0⟩ "a" none (.defineHook 60 "probe" 0 (.empty (fresh .standard)))))
  obtain ⟨total, whole⟩ := boot_runs_whole application built rfl
  obtain ⟨report, after, returns⟩ := total (answers.responsive _ _)
  obtain ⟨steps, right⟩ := whole report after returns
  have schedule : stumblingTable.schedule =
      [⟨BootBand.classes, "class c", .registerClass ⟨"c", none, .custom 0⟩⟩, .initOf 0 "a", .initOf 1 "b",
        ⟨60, "probe", .hook 0⟩, .startOf 0 "a", .startOf 1 "b"] := by
    simp [stumblingTable, BootTable.schedule, BootTable.defineHook, BootTable.defineLeaf, BootTable.defineClass,
      BootTable.add, BootTable.empty, List.mergeSort, List.MergeSort.Internal.splitInTwo, BootEntry.initOf,
      BootEntry.startOf, BootBand.classes, BootBand.leafInit, BootBand.leafStart]
  have enlists : stumbling.Uses (Act.Keeps Enlists) :=
    { Application.uses_silent with
      phase := fun _ _ _ => uses_pure _
      hook := fun _ => uses_pure _ }
  have listed : ⟨"c", none, .custom 0⟩ ∈ after.hub.classes := by
    have defined : ⟨BootBand.classes, "class c", .registerClass ⟨"c", none, .custom 0⟩⟩ ∈ stumblingTable.entries := by
      decide
    obtain ⟨step, member, entry⟩ := List.mem_map.mp (right.order.perm.mem_iff.mpr defined)
    exact (right.classes enlists).subset (List.mem_filterMap.mpr ⟨step, member, by rw [entry]; rfl⟩)
  refine ⟨?_, report, after, steps, returns, right, listed⟩
  unfold boot
  rw [schedule]
  decide +kernel

end Routine

end LeafHub
