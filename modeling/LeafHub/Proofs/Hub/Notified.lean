import LeafHub.Proofs.Hub.OnCall
import LeafHub.Proofs.Routine.Returns

namespace LeafHub

variable {σ α : Type} {item : ItemId}

namespace Hub

theorem subscriber_set (hub : Hub) (id other : CellId) (payload : Payload) :
    (Hub.cell { hub with cells := hub.cells.set id { hub.cell id with payload } } other).subscriber =
      (hub.cell other).subscriber := by
  show ((hub.cells.set id _).get other).subscriber = _
  rw [Pool.get_set]
  split
  · rename_i here
    rw [here.1]
  · rfl

/-- An LED does not scan. -/
theorem scans_of_lit (hub : Hub) (id : LeafId) (state : LedState)
    (scans : ((setContext id (.led state)).run hub).2.Scans item) : hub.Scans item := by
  obtain ⟨other, bus, cells, scanning, holds, scan⟩ := scans
  refine ⟨other, bus, cells, scanning, ?_, scan⟩
  have leaf : ((setContext id (.led state)).run hub).2.leaf other =
      if other = id ∧ id < hub.leaves.size then { hub.leaf id with context := some (.led state) } else hub.leaf other :=
    Pool.get_set _ _ _ _
  unfold keypad? at holds
  rw [leaf] at holds
  split at holds
  · rename_i keypad
    split at keypad
    · cases keypad
    · cases holds
      unfold keypad?
      rw [keypad]
  · cases holds

theorem conduct_attended (item : ItemId) : Conduct (Attended item) where
  refl := fun _ => .refl
  trans := .trans
  noted := fun hub _ plain => .single (.aside (unconcerned_noted hub plain))
  told := fun id happening changed hub => .single (.told hub id happening changed)
  filled := fun hub id _ _ _ =>
    .single (.aside (unconcerned_of_same rfl rfl (fun other => subscriber_set hub id other _) (fun scans => scans) rfl))
  counted := fun hub id _ _ _ =>
    .single (.aside (unconcerned_of_same rfl rfl (fun other => subscriber_set hub id other _) (fun scans => scans) rfl))
  flagged := fun _ _ _ => .single (.aside (unconcerned_of_same rfl rfl (fun _ => rfl) (fun scans => scans) rfl))
  lit := fun hub id state lit _ => .single (.aside (unconcerned_of_same rfl rfl (fun _ => rfl) (scans_of_lit hub id { state with lit }) rfl))
  scheduled := fun hub id bus cells delay scans => .single (.rescan hub id bus cells delay scans)
  pinned := fun _ _ => .single (.aside (unconcerned_of_same rfl rfl (fun _ => rfl) (fun scans => scans) rfl))
  bussed := fun _ _ => .single (.aside (unconcerned_of_same rfl rfl (fun _ => rfl) (fun scans => scans) rfl))
  stored := fun _ _ => .single (.aside (unconcerned_of_same rfl rfl (fun _ => rfl) (fun scans => scans) rfl))
  waited := fun _ _ => .single (.aside (unconcerned_of_same rfl rfl (fun _ => rfl) (fun scans => scans) rfl))

theorem attended_takeTurn (id : QueueId) : Act.Keeps (Attended item) (takeTurn id) := by
  intro hub
  have turned : Attended item hub (hub.turned id) := .single (.turned hub id)
  rw [run_takeTurn]
  split
  · exact turned.trans ((conduct_attended item).runHandler _ _)
  · exact turned

theorem allowsTurns_attended : AllowsTurns (Act.Keeps (Attended item)) where
  look := (conduct_attended item).get
  log := (conduct_attended item).log
  turn := attended_takeTurn
  wait := (conduct_attended item).waitUntil

/-- What is asked of queues for other items. -/
theorem attended_others {other : ItemId} (apart : item ≠ other) :
    Act.Keeps (Attended item) (submit other) ∧ (∀ delay, Act.Keeps (Attended item) (schedule other delay)) ∧
      (∀ delay, Act.Keeps (Attended item) (reschedule other delay)) ∧ Act.Keeps (Attended item) (cancel other) := by
  have single {α : Type} {act : Act α} (aside : Act.Keeps (Unconcerned item) act) : Act.Keeps (Attended item) act :=
    fun hub => .single (.aside (aside hub))
  exact ⟨single (unconcerned_submit apart), fun delay => single (unconcerned_schedule apart delay),
    fun delay => single (unconcerned_reschedule apart delay), single (unconcerned_cancel apart)⟩

/-- The cells that were changed, one entry for each change. -/
def changes (hub : Hub) : List CellId :=
  hub.journal.toList.filterMap Happening.changed?

/-- Neither changes nor runs are new. -/
def SameRecord (hub after : Hub) : Prop :=
  after.changes = hub.changes ∧ after.begun = hub.begun

theorem sameRecord_withLines (hub : Hub) (lines : List (Level × String)) : hub.SameRecord (hub.withLines lines) := by
  constructor <;> simp [changes, begun, withLines, Function.comp_def, Happening.changed?]

theorem sameRecord_notify (hub : Hub) (id : CellId) : hub.SameRecord ((notify id).run hub).2 := by
  have asked (item : ItemId) : Act.Keeps SameRecord (askQueue item fun queue => queue.submit item) := by
    intro hub
    rw [run_askQueue]
    split <;> exact ⟨rfl, rfl⟩
  rw [run_notify]
  split
  · exact keeps_submit (fun level line hub => sameRecord_withLines hub [(level, line)]) (asked _) hub
  · exact ⟨rfl, rfl⟩

theorem sameRecord_of_onlyLogged {hub after : Hub} (only : hub.OnlyLogged after) : hub.SameRecord after := by
  obtain ⟨lines, rfl⟩ := only
  exact sameRecord_withLines hub lines

/-- A mutation that succeeds leaves one entry of its cell, and one that fails leaves none. Neither begins a run. -/
theorem record_mutation (hub : Hub) (mutation : Mutation) :
    (mutation.run.run hub).2.begun = hub.begun ∧ (mutation.run.run hub).2.changes = hub.changes ++
      if (mutation.run.run hub).1 = true then (mutation.cell? hub).toList else [] := by
  have effect := hub.effect mutation
  generalize (mutation.run.run hub).1 = granted at effect
  generalize (mutation.run.run hub).2 = after at effect
  cases effect with
  | refused _ _ only =>
    obtain ⟨changes, begun⟩ := sameRecord_of_onlyLogged only
    exact ⟨begun, by simp [changes]⟩
  | passedOver passes only =>
    obtain ⟨changes, begun⟩ := sameRecord_of_onlyLogged only
    have nobody : mutation.cell? hub = none := by
      cases mutation with
      | handleSet key raw => exact passes.2
      | _ => exact passes.elim
    exact ⟨begun, by simp [changes, nobody]⟩
  | @granted id value happening started about asks changed only =>
    obtain ⟨lines, rfl⟩ := only
    obtain ⟨logged, quiet⟩ := sameRecord_withLines hub lines
    obtain ⟨told, still⟩ := sameRecord_notify ((hub.withLines lines).putNoted id value happening) id
    have change : ((hub.withLines lines).putNoted id value happening).changes =
        (hub.withLines lines).changes ++ [id] := by
      simp [changes, putNoted, changed]
    have record : ((hub.withLines lines).putNoted id value happening).begun = (hub.withLines lines).begun := by
      unfold putNoted
      cases happening with
      | began | log | pin | bus => cases changed
      | _ => simp [begun]
    exact ⟨by rw [still, record, quiet], by simp [told, change, logged, about]⟩

/-- Since a start a cell of the item has changed, and the item has not begun to run after that. -/
def Owes (start : Hub) (item : ItemId) (hub : Hub) : Prop :=
  ∃ more, hub.journal.toList = start.journal.toList ++ more ∧ Owed (start.Attached item) item more

theorem Answers.pending_iff {start hub : Hub} (answers : start.Answers item hub) (idle : start.isPending item = false) :
    hub.isPending item = true ↔ start.Owes item hub := by
  obtain ⟨past, journal, pending⟩ := answers.past
  have owed : hub.isPending item = true ↔ Owed (start.Attached item) item past := by
    rw [pending, idle]
    simp
  rw [owed]
  constructor
  · exact fun owed => ⟨past, journal, owed⟩
  · rintro ⟨more, journal', owed⟩
    rw [journal] at journal'
    exact List.append_cancel_left journal' ▸ owed

theorem runHandler_ne_nothing (hub : Hub) (handler : WorkHandler) : ((runHandler handler).run hub).1 ≠ .nothing := by
  cases handler <;> exact nofun

/-- A turn that started nothing. -/
theorem ready_of_nothing {hub : Hub} {id : QueueId} (nothing : ((takeTurn id).run hub).1 = .nothing) :
    ((((takeTurn id).run hub).2).queues.get id).ready = [] := by
  rw [run_takeTurn] at nothing ⊢
  cases starts : ((hub.queues.get id).turn hub.clock).1 with
  | some item =>
    rw [starts] at nothing
    exact absurd nothing (runHandler_ne_nothing _ _)
  | none =>
    have there : (hub.turned id).queues.get id = if id = id ∧ id < hub.queues.size then
        ((hub.queues.get id).turn hub.clock).2 else hub.queues.get id := Pool.get_set _ _ _ _
    dsimp only
    rw [there]
    split
    · exact WorkQueue.ready_of_turn_none starts
    · rename_i unknown
      rw [Pool.get_unknown (Nat.le_of_not_lt fun known => unknown ⟨rfl, known⟩)]
      rfl

end Hub

namespace Routine

open Hub

variable {app : Application σ}

/-- A drain comes to the end of its first turn in two steps. -/
theorem run_drain (queue : QueueId) (ran limit : Nat) (world : World σ) :
    (ofCall (.drain queue ran)).run app (limit + 2) world =
      ((match ((takeTurn queue).run world.hub).1 with
        | .nothing => pure ran
        | .finished => ofCall (.drain queue (ran + 1))
        | .handedOver behaviour => do
          ofCall (.work behaviour)
          ofCall (.drain queue (ran + 1)) : Routine σ Nat)).run app limit
        { world with hub := ((takeTurn queue).run world.hub).2 } := by
  rw [run_succ]
  show ((drainRound queue ran).bind .done).run app (limit + 1) world = _
  rw [bind_done, run_succ]
  rfl

/-- A drain that returns leaves nothing ready. Each round takes steps, so the induction is on how many there are. -/
theorem ready_of_drain {queue : QueueId} {limit ran total : Nat} {world after : World σ}
    (ended : (ofCall (.drain queue ran)).run app limit world = (.done total, after)) :
    (after.hub.queues.get queue).ready = [] := by
  induction limit using Nat.strongRecOn generalizing ran world with
  | ind limit ih =>
    obtain _ | _ | limit := limit
    · cases ended
    · cases ended
    · rw [run_drain] at ended
      cases turn : ((takeTurn queue).run world.hub).1 with
      | nothing =>
        rw [turn] at ended
        obtain ⟨_, rfl⟩ := done_of_run_done ended
        exact ready_of_nothing turn
      | finished =>
        rw [turn] at ended
        exact ih limit (by omega) ended
      | handedOver behaviour =>
        rw [turn] at ended
        obtain ⟨used, _, _, between, _, rest⟩ := run_bind_done ended
        exact ih (limit - used) (by omega) rest

/-- Wherever an application changes cells and drains queues, also out of handlers, an item that was on call and idle
is pending exactly while it owes a change of its cells a run. When a drain of its queue returns, it owes nothing. -/
theorem changes_are_noticed {app : Application σ} {routine : Routine σ α} {world : World σ} {item : ItemId}
    (application : app.Uses (Act.Keeps (Attended item))) (uses : routine.Uses (Act.Keeps (Attended item)))
    (onCall : world.hub.OnCall item) (idle : world.hub.isPending item = false) :
    (AllowsMutations (Act.Keeps (Attended item)) ∧ AllowsTurns (Act.Keeps (Attended item)) ∧
      ∀ other, item ≠ other → Act.Keeps (Attended item) (submit other) ∧
        (∀ delay, Act.Keeps (Attended item) (schedule other delay)) ∧
        (∀ delay, Act.Keeps (Attended item) (reschedule other delay)) ∧ Act.Keeps (Attended item) (cancel other)) ∧
    (∀ (hub : Hub) (mutation : Mutation), (mutation.run.run hub).2.begun = hub.begun ∧
      (mutation.run.run hub).2.changes = hub.changes ++
        if (mutation.run.run hub).1 = true then (mutation.cell? hub).toList else []) ∧
    (∀ limit, (routine.run app limit world).2.hub.isPending item = true ↔
      world.hub.Owes item (routine.run app limit world).2.hub) ∧
    ∀ limit total after, (drain (world.hub.items.get item).queue).Returns app (routine.run app limit world).2 total after →
      after.hub.isPending item = false ∧ ¬world.hub.Owes item after.hub := by
  have passage := (conduct_attended item).toPassage
  have bodies := application.body allowsTurns_attended
  have attended (limit : Nat) : Attended item world.hub (routine.run app limit world).2.hub :=
    uses.run_hub passage (fun keeps => keeps) bodies world limit
  refine ⟨⟨(conduct_attended item).allowsMutations, allowsTurns_attended, fun _ => attended_others⟩, record_mutation,
    fun limit => ?_, ?_⟩
  · obtain ⟨_, answers⟩ := (attended limit).answers onCall
    exact answers.pending_iff idle
  · intro limit total after returns
    have drained : (drain (world.hub.items.get item).queue : Routine σ Nat).Uses (Act.Keeps (Attended item)) :=
      uses_ofCall _
    have whole := passage.trans (attended limit) (returns.keeps passage (fun keeps => keeps) bodies drained)
    obtain ⟨later, answers⟩ := whole.answers onCall
    obtain ⟨steps, ended⟩ := returns
    have ready : (after.hub.queueOf item).ready = [] := by
      rw [queueOf, answers.same]
      exact ready_of_drain ended
    have done : ¬after.hub.isPending item = true := by
      rw [later.pending_iff, ready]
      exact List.not_mem_nil
    exact ⟨Bool.not_eq_true _ ▸ done, fun owes => done ((answers.pending_iff idle).mpr owes)⟩

/-- Counts in its own cell, the first time it runs. -/
def recounting : Application Nat :=
  { Application.silent with
    work := fun _ => do
      let runs ← ofOwn (modifyGet fun runs => (runs, runs + 1))
      if runs = 0 then discard (Hub.count 0 1).run else pure () }

/-- A counter whose subscriber is on call. -/
def countingWorld : World Nat where
  hub := { fresh .standard with
    cells := ⟨#[⟨"n", .int64, .int64 0, some 0⟩]⟩
    items := ⟨#[⟨"counter", .custom 0, ownQueue⟩]⟩ }
  own := 0

/-- Moves the counter twice, makes a mistake, and drains the queue. -/
def countTwice : Routine Nat Nat := do
  discard (Hub.count 0 1).run
  discard (Hub.storeText 0 "x").run
  discard (Hub.count 0 1).run
  drain ownQueue

theorem changes_are_noticed_counting :
    countingWorld.hub.Owes 0 (countTwice.run recounting 4 countingWorld).2.hub ∧
      (countTwice.run recounting 40 countingWorld).2.hub.begun = [0, 0] ∧
      (countTwice.run recounting 40 countingWorld).2.hub.value 0 = .int64 3 ∧
      ¬countingWorld.hub.Owes 0 (countTwice.run recounting 40 countingWorld).2.hub := by
  have conduct := conduct_attended 0
  have application : recounting.Uses (Act.Keeps (Attended 0)) :=
    { Application.uses_silent with
      work := fun _ => by
        refine uses_bind (uses_ofOwn _) fun runs => ?_
        split
        · exact uses_bind (uses_act (conduct.count 0 1)) fun _ => uses_pure _
        · exact uses_pure _ }
  have uses : countTwice.Uses (Act.Keeps (Attended 0)) := by
    refine uses_bind (uses_bind (uses_act (conduct.count 0 1)) fun _ => uses_pure _) fun _ => ?_
    refine uses_bind (uses_bind (uses_act (conduct.storeText 0 "x")) fun _ => uses_pure _) fun _ => ?_
    exact uses_bind (uses_bind (uses_act (conduct.count 0 1)) fun _ => uses_pure _) fun _ => uses_ofCall _
  have onCall : countingWorld.hub.OnCall 0 := by
    have queue (id : QueueId) : (countingWorld.hub.queues.get id).ready = [] ∧
        (countingWorld.hub.queues.get id).delayed = [] := by
      obtain rfl | beyond := Nat.eq_zero_or_pos id
      · exact ⟨rfl, rfl⟩
      · rw [Pool.get_unknown beyond]
        exact ⟨rfl, rfl⟩
    exact
      { known := by decide
        orderly := WorkQueue.orderly_fresh
        opened := rfl
        owned := by decide
        elsewhere := fun id _ => by simp [queue id]
        undelayed := fun id => by simp [queue id]
        unscanned := by
          rintro ⟨id, bus, cells, scanning, holds, _⟩
          rw [keypad?, Hub.leaf, Pool.get_unknown (Nat.zero_le id)] at holds
          cases holds }
  obtain ⟨_, _, pending, _⟩ := changes_are_noticed application uses onCall (by decide)
  have first := (pending 4).1 (by decide +kernel)
  have last := mt (pending 40).2 (by decide +kernel)
  exact ⟨first, by decide +kernel, by decide +kernel, last⟩

end Routine

end LeafHub
