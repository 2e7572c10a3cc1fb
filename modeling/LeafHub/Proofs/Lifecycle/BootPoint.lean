import LeafHub.Proofs.Lifecycle.WholeBoot

namespace LeafHub.Routine

open Hub

variable {σ α β : Type} {app : Application σ} {table : BootTable} {world start between here : World σ}

section Steps

theorem run_act_cases (app : Application σ) (act : Act α) (next : α → Routine σ β) (limit : Nat) (world : World σ) :
    (liftM act >>= next : Routine σ β).run app limit world = (liftM act >>= next, world) ∨
      ∃ less, (liftM act >>= next : Routine σ β).run app limit world =
        (next (act.run world.hub).1).run app less (world.after act) := by
  cases limit with
  | zero => exact .inl rfl
  | succ limit => exact .inr ⟨limit, run_succ app limit _ world⟩

/-- What comes next in a routine that is not done comes next in a longer one, and nothing else does. -/
theorem takes_of_bind {sort : ∀ {β : Type}, Act β → Prop} {first : Routine σ α} {second : α → Routine σ β}
    (unfinished : first.answer? = none) (takes : (first.bind second).Takes sort) : first.Takes sort := by
  obtain ⟨_, _, _, same, sort⟩ := takes
  cases first with
  | done => cases unfinished
  | hub act next =>
    cases same
    exact ⟨_, _, next, rfl, sort⟩
  | own | call => cases same

theorem step_bind_hub {first : Routine σ α} (unfinished : first.answer? = none) (second : α → Routine σ β) (world : World σ) :
    ((first.bind second).step app world).2.hub = (first.step app world).2.hub := by
  cases first with
  | done => cases unfinished
  | hub | own | call => rfl

end Steps

/-- Of these entries some have been carried out, and the next one is on its way. -/
def Amid (app : Application σ) (entries : List BootEntry) (start : World σ) (steps : List BootStep) (entry : BootEntry)
    (inner : Routine σ (Except Fault Unit)) (here : World σ) : Prop :=
  ∃ later between limit, entries = steps.map BootStep.entry ++ entry :: later ∧ Boots app steps start between ∧
    (bootAction entry.action).run app limit between = (inner, here)

theorem Amid.cons (step : BootStep) {entries : List BootEntry} {steps : List BootStep} {entry : BootEntry}
    {inner : Routine σ (Except Fault Unit)} (carries : Carries app step.entry.action start step.deed between)
    (amid : Amid app entries (between.after step.finish) steps entry inner here) :
    Amid app (step.entry :: entries) start (step :: steps) entry inner here := by
  obtain ⟨later, between, limit, split, boots, ran⟩ := amid
  exact ⟨later, between, limit, congrArg (step.entry :: ·) split, .cons carries boots, ran⟩

/-- The boot of a table is within an entry. -/
def Within (app : Application σ) (table : BootTable) (world : World σ) (steps : List BootStep) (entry : BootEntry)
    (inner : Routine σ (Except Fault Unit)) (here : World σ) : Prop :=
  ∃ opened, world.hub.Opens table opened ∧ Amid app table.schedule (entered table world opened) steps entry inner here

/-- A point of a run that is found at these steps of an entry. -/
def Inside (found : List BootStep → BootEntry → Routine σ (Except Fault Unit) → World σ → Prop)
    (reached : Routine σ α × World σ) : Prop :=
  ∃ steps entry inner here next, found steps entry inner here ∧ inner.answer? = none ∧ reached = (inner.bind next, here)

/-- At every point of the run the next step stays within the relation, or the point is as it is found. -/
def Covered (R : Hub → Hub → Prop) (app : Application σ) (found : Routine σ α × World σ → Prop) (routine : Routine σ α)
    (start : World σ) : Prop :=
  ∀ limit rest here, routine.run app limit start = (rest, here) → R here.hub (rest.step app here).2.hub ∨ found (rest, here)

section Housekeeping

variable {R : Hub → Hub → Prop} {found : Routine σ α × World σ → Prop}

theorem covered_act_bind {act : Act β} {next : β → Routine σ α} (kept : act.Keeps R)
    (later : Covered R app found (next (act.run start.hub).1) (start.after act)) :
    Covered R app found (liftM act >>= next) start := by
  intro limit rest here ran
  obtain first | ⟨less, rest⟩ := run_act_cases app act next limit start
  · rw [first] at ran
    cases ran
    exact .inl (kept start.hub)
  · exact later less _ _ (rest.symm.trans ran)

theorem covered_pure (passage : Passage R) (answer : α) : Covered R app found (pure answer) start := by
  intro limit rest here ran
  have done : (pure answer : Routine σ α).run app limit start = (.done answer, start) := run_done app limit answer start
  rw [done] at ran
  cases ran
  exact .inl (passage.refl _)

theorem covered_bind {found : List BootStep → BootEntry → Routine σ (Except Fault Unit) → World σ → Prop}
    {first : Routine σ β} {second : β → Routine σ α} (one : Covered R app (Inside found) first start)
    (two : ∀ answer between, Covered R app (Inside found) (second answer) between) :
    Covered R app (Inside found) (first >>= second) start := by
  intro limit rest here ran
  obtain ⟨unfinished, inside⟩ | ⟨used, _, answer, between, _, followed⟩ := run_bind_cases app first second limit start
  · -- the routines that follow are put behind what is left of the entry
    have same := inside.symm.trans ran
    cases same
    rw [step_bind_hub unfinished]
    refine (one limit _ _ rfl).imp_right ?_
    rintro ⟨steps, entry, inner, here, next, point, pending, reached⟩
    obtain ⟨routine, hub⟩ := Prod.mk.inj reached
    rw [routine, hub]
    exact ⟨steps, entry, inner, here, _, point, pending, Prod.ext (bind_assoc inner next second) rfl⟩
  · exact two answer between _ _ _ (followed.symm.trans ran)

variable (logging : Logging R) (released : ∀ id, Act.Keeps R (release id))

include logging released

/-- What follows an entry is housekeeping until the next one. -/
theorem covered_rest {found : Routine σ BootReport × World σ → Prop} (step : BootStep) {rest : List BootEntry}
    (report : BootReport) (later : ∀ report, Covered R app found (bootEntries rest report) (between.after step.finish)) :
    Covered R app found (do
      (step.entry.action.leaf?.forM Hub.release : Act Unit)
      let counted := { report with ran := report.ran + 1 }
      match step.deed.outcome with
      | .ok () => bootEntries rest counted
      | .error fault =>
        Hub.log .warn s!"boot: {step.entry.label} (prio {step.entry.priority}) failed: {fault.message}"
        bootEntries rest (counted.fail step.entry.label fault) : Routine σ BootReport) between := by
  refine covered_act_bind (logging.eachOption released _) ?_
  cases answer : step.deed.outcome with
  | ok =>
    have finish : step.finish = (do step.entry.action.leaf?.forM Hub.release; pure ()) := by
      rw [BootStep.finish, answer]
    rw [finish] at later
    exact later _
  | error fault =>
    have finish : step.finish = (do
        step.entry.action.leaf?.forM Hub.release
        Hub.log .warn s!"boot: {step.entry.label} (prio {step.entry.priority}) failed: {fault.message}") := by
      rw [BootStep.finish, answer]
    rw [finish] at later
    exact covered_act_bind (logging.logged _ _) (later _)

theorem covered_bootEntries (entries : List BootEntry) (report : BootReport) (start : World σ) :
    Covered R app (Inside (Amid app entries start)) (bootEntries entries report) start := by
  induction entries generalizing report start with
  | nil => exact covered_pure logging.toPassage report
  | cons entry rest ih =>
    intro limit found here ran
    obtain ⟨unfinished, inside⟩ | ⟨used, _, outcome, between, carried, followed⟩ :=
      run_bind_cases app (bootAction entry.action) _ limit start
    · have same := inside.symm.trans ran
      cases same
      exact .inr ⟨[], entry, _, _, _, ⟨rest, start, limit, rfl, .nil start, rfl⟩, unfinished, rfl⟩
    · obtain ⟨deed, rfl, carries⟩ := returns_bootAction_iff.mp ⟨used, carried⟩
      let step : BootStep := ⟨entry, deed⟩
      have later (report : BootReport) : Covered R app (Inside (Amid app (entry :: rest) start)) (bootEntries rest report)
          (between.after step.finish) := by
        intro limit found here ran
        refine (ih report _ limit found here ran).imp_right ?_
        rintro ⟨steps, other, inner, here, next, amid, unfinished, same⟩
        exact ⟨step :: steps, other, inner, here, next, Amid.cons step carries amid, unfinished, same⟩
      exact covered_rest logging released step report later _ _ _ (followed.symm.trans ran)

end Housekeeping

/-- Every point of the run of a boot is within an entry, unless its next step is housekeeping. -/
theorem covered_boot {R : Hub → Hub → Prop} (lists : Registering R) (retained : ∀ id, Act.Keeps R (retain id))
    (released : ∀ id, Act.Keeps R (release id)) (free : world.hub.leafListHeld = false) :
    Covered R app (Inside (Within app table world)) (boot table) world := by
  obtain ⟨opened, opens, _, begins⟩ := opens_bootInitialise free
  have held (entry : BootEntry) : Act.Keeps R (entry.action.leaf?.forM retain : Act PUnit) :=
    lists.eachOption retained _
  obtain ⟨empty, begun⟩ := after_begun world begins
  unfold boot
  refine covered_act_bind (lists.each held _) ?_
  refine covered_act_bind lists.bootInitialise ?_
  refine covered_act_bind (lists.logged _ _) ?_
  rw [empty, begun]
  have entries : Covered R app (Inside (Within app table world)) (bootEntries table.schedule .empty)
      (entered table world opened) := by
    intro limit rest here ran
    refine (covered_bootEntries lists.toLogging released _ _ _ limit rest here ran).imp_right ?_
    rintro ⟨steps, entry, inner, here, next, amid, unfinished, same⟩
    exact ⟨steps, entry, inner, here, next, ⟨opened, opens, amid⟩, unfinished, same⟩
  refine covered_bind entries fun report between => ?_
  exact covered_act_bind (lists.logged _ _) (covered_pure lists.toPassage report)

end LeafHub.Routine
