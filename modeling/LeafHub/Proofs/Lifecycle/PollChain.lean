import LeafHub.Proofs.Hub.Polling
import LeafHub.Proofs.Lifecycle.Reachable

namespace LeafHub.Routine

open Hub

variable {σ α : Type} {app : Application σ} {routine : Routine σ α} {world : World σ} {leaf : LeafId} {bus : String}
  {cells : KeypadCells}

section Runs

variable (application : app.Uses (StakeAct (.ofScans leaf cells.scan)))
  (uses : routine.Uses (StakeAct (.ofScans leaf cells.scan))) (start : world.hub.Polls leaf bus cells)
  (alive : ∀ limit, (routine.run app limit world).2.hub.isAlive leaf = true)

include application uses start alive

theorem polls_run (limit : Nat) : (routine.run app limit world).2.hub.Polls leaf bus cells :=
  uses.run_keeps (·.Polls leaf bus cells) (·.isAlive leaf = true) (fun fine alive polls => (polls.step alive fine).1)
    (application.body (Stake.allowsTurns_stakeAct _)) start alive limit

/-- What a step of the run does to the flag. -/
theorem isScanning_next (limit : Nat) :
    ((routine.run app limit world).1.Takes (StartsScan leaf) →
      (routine.run app (limit + 1) world).2.hub.isScanning leaf = true) ∧
    ((routine.run app limit world).1.Takes (StopsScan leaf) →
      (routine.run app (limit + 1) world).2.hub.isScanning leaf = false) ∧
    (¬(routine.run app limit world).1.Takes (StartsScan leaf) → ¬(routine.run app limit world).1.Takes (StopsScan leaf) →
      (routine.run app (limit + 1) world).2.hub.isScanning leaf = (routine.run app limit world).2.hub.isScanning leaf) := by
  have polls := polls_run application uses start alive limit
  rw [run_next]
  refine ⟨?_, ?_, fun starts stops => ?_⟩
  · rintro ⟨β, act, next, here, starts⟩
    rw [here]
    exact (polls.toKeyed.starts (alive limit) starts).1
  · rintro ⟨β, act, next, here, stops⟩
    rw [here]
    exact (polls.toKeyed.stops (alive limit) stops).1
  · obtain same | ⟨β, act, next, here, fine, after⟩ :=
      (uses.run (application.body (Stake.allowsTurns_stakeAct _)) world limit).step_cases app (routine.run app limit world).2
    · rw [same]
    · rw [after]
      exact (polls.step (alive limit) fine).2 (fun other => starts ⟨β, act, next, here, other⟩)
        fun other => stops ⟨β, act, next, here, other⟩

/-- From a stop to the next start the flag is down. -/
theorem stopped_run {stopped : Nat} (stops : (routine.run app stopped world).1.Takes (StopsScan leaf)) (more : Nat)
    (quiet : ∀ between, stopped < between → between ≤ stopped + more →
      ¬(routine.run app between world).1.Takes (StartsScan leaf)) :
    (routine.run app (stopped + 1 + more) world).2.hub.isScanning leaf = false := by
  induction more with
  | zero => exact (isScanning_next application uses start alive stopped).2.1 stops
  | succ more ih =>
    have before := ih fun between late early => quiet between late (Nat.le_succ_of_le early)
    have starts := quiet (stopped + 1 + more) (by omega) (by omega)
    obtain ⟨_, down, same⟩ := isScanning_next application uses start alive (stopped + 1 + more)
    by_cases again : (routine.run app (stopped + 1 + more) world).1.Takes (StopsScan leaf)
    · exact down again
    · exact (same starts again).trans before

end Runs

/-- Whatever is done to a keypad through its class, its command and the life of leaves, and whatever its bus answers:
its flag is up exactly while its item is ready or has its one deadline. A start puts the flag up, a stop takes it down
and nothing else moves it, no turn in particular, so that from a stop to the next start no turn scans. This begins with
the first init of the keypad, in whatever has come of a fresh hub. -/
theorem keypad_keeps_polling (application : app.Uses (StakeAct (.ofScans leaf cells.scan)))
    (uses : routine.Uses (StakeAct (.ofScans leaf cells.scan))) (start : world.hub.Polls leaf bus cells)
    (alive : ∀ limit, (routine.run app limit world).2.hub.isAlive leaf = true) :
    (AllowsLife σ (StakeAct (.ofScans leaf cells.scan)) ∧ AllowsTurns (StakeAct (.ofScans leaf cells.scan)) ∧
      AllowsMutations (StakeAct (.ofScans leaf cells.scan)) ∧
      AllowsOthers (.ofScans leaf cells.scan) (StakeAct (.ofScans leaf cells.scan))) ∧
    StaysGrounded app ∧
    (∀ (hub : Hub) (name : String), hub.Grounded → hub.keypad? leaf = some ⟨name, none, false⟩ →
      (∀ item < hub.items.size, (hub.items.get item).handler ≠ .keypadScan leaf) →
        ((keypadPhase .init leaf).run.run hub).2.isScanning leaf = false ∧
        ((keypadPhase .init leaf).run.run hub).2.Polls leaf name hub.nextKeypad) ∧
    (∀ limit rest hub own, routine.run app limit world = (rest, ⟨hub, own⟩) →
      hub.keypad? leaf = some ⟨bus, some cells, hub.isScanning leaf⟩ ∧
      (hub.isScanning leaf = true ↔ hub.isPending cells.scan = true ∨ (hub.queueOf cells.scan).isDelayed cells.scan = true) ∧
      ((hub.queueOf cells.scan).delayed.map Prod.snd).count cells.scan ≤ 1 ∧
      (rest.Takes (StartsScan leaf) → (routine.run app (limit + 1) world).2.hub.isScanning leaf = true) ∧
      (rest.Takes (StopsScan leaf) → (routine.run app (limit + 1) world).2.hub.isScanning leaf = false) ∧
      (¬rest.Takes (StartsScan leaf) → ¬rest.Takes (StopsScan leaf) →
        (routine.run app (limit + 1) world).2.hub.isScanning leaf = hub.isScanning leaf) ∧
      ∀ queue next, rest = .hub (takeTurn queue) next →
        (routine.run app (limit + 1) world).2.hub.isScanning leaf = hub.isScanning leaf ∧
        (((hub.queues.get queue).turn hub.clock).1 = some cells.scan →
          (routine.run app (limit + 1) world).2.hub.isScanning leaf = true)) ∧
    ∀ stopped more, (routine.run app stopped world).1.Takes (StopsScan leaf) →
      (∀ between, stopped < between → between ≤ stopped + more →
        ¬(routine.run app between world).1.Takes (StartsScan leaf)) →
      ∀ rest hub own, routine.run app (stopped + 1 + more) world = (rest, ⟨hub, own⟩) →
        ∀ queue item, ((hub.queues.get queue).turn hub.clock).1 = some item →
          (hub.items.get item).handler ≠ .keypadScan leaf := by
  refine ⟨⟨(Stake.lives_stakeAct _).allowsLife fun _ => List.not_mem_nil, Stake.allowsTurns_stakeAct _, (Stake.allowsOthers_stakeAct _).allowsMutations rfl,
    Stake.allowsOthers_stakeAct _⟩, staysGrounded app, fun hub name grounded holds alone => grounded.polls holds alone, ?_, ?_⟩
  · intro limit rest hub own ran
    have polls := polls_run application uses start alive limit
    have flags := isScanning_next application uses start alive limit
    have lives := alive limit
    rw [ran] at polls flags lives
    have serves := polls.sole.serves cells.scan rfl
    obtain ⟨up, down, same⟩ := flags
    refine ⟨polls.holds, polls.waits, ?_, up, down, same, fun queue next here => ?_⟩
    · rw [queueOf, serves.queue]
      exact List.nodup_iff_count_le_one.mp serves.orderly.delayed _
    · subst here
      rw [run_next, ran]
      obtain ⟨still, _⟩ := polls.takeTurn lives queue
      exact ⟨still, fun starts => still.trans (polls.started starts).1⟩
  · intro stopped more stops quiet rest hub own ran queue item starts scans
    have polls := polls_run application uses start alive (stopped + 1 + more)
    have down := stopped_run application uses start alive stops more quiet
    rw [ran] at polls down
    obtain rfl := polls.own_item scans
    obtain ⟨up, _⟩ := polls.started starts
    exact Bool.noConfusion (up.symm.trans down)

/-- A hub with one keypad, the bus of which fails once it has been configured. -/
def padHub : Hub :=
  { fresh .standard with
    leaves := ⟨#[{ Leaf.fresh ⟨"pad", none, .keypad⟩ "kp" (some (.keypadOn "bus")) with ready := true }]⟩
    buses := [("bus", ⟨[], [none, some .bus, some .noAcknowledge]⟩)] }

/-- The keypad has been inited. -/
def padWorld : World Unit where
  hub := ((keypadPhase .init 0).run.run padHub).2
  own := ()

/-- Starts the keypad, lets it scan twice and stops it. -/
def scanTwice : Routine Unit (Except Fault Unit) := do
  discard (startLeaf 0)
  discard (drain ownQueue)
  Hub.waitUntil 60
  discard (drain ownQueue)
  stopLeaf 0

theorem keypad_keeps_polling_failing :
    (scanTwice.run .silent 16 padWorld).2.hub.Waits padHub.nextKeypad.scan ∧
      ((scanTwice.run .silent 16 padWorld).2.hub.bus "bus").faults = [] ∧
      ¬(scanTwice.run .silent 29 padWorld).2.hub.Waits padHub.nextKeypad.scan := by
  have acts : Allows Unit (Stake.ofScans 0 0).Respects (· ∉ (Stake.ofScans 0 0).names) (StakeAct (.ofScans 0 0)) :=
    Stake.allows_stakeAct _
  have turns : AllowsTurns (StakeAct (.ofScans 0 0)) := Stake.allowsTurns_stakeAct _
  have uses : scanTwice.Uses (StakeAct (.ofScans 0 0)) := by
    refine uses_bind (uses_bind (acts.startLeaf 0) fun _ => uses_pure _) fun _ => ?_
    refine uses_bind (uses_bind (uses_ofCall _) fun _ => uses_pure _) fun _ => ?_
    refine uses_bind (uses_act (turns.wait 60)) fun _ => ?_
    exact uses_bind (uses_bind (uses_ofCall _) fun _ => uses_pure _) fun _ => acts.stopLeaf 0
  have grounded : padHub.Grounded := (reachable_single .standard [] _ rfl).rooted.grounded
  have holds : padHub.keypad? 0 = some ⟨"bus", none, false⟩ := rfl
  have alone (item : ItemId) (known : item < padHub.items.size) : (padHub.items.get item).handler ≠ .keypadScan 0 :=
    absurd known (Nat.not_lt_zero item)
  have start : padWorld.hub.Polls 0 "bus" padHub.nextKeypad := by
    simp only [padWorld]
    exact (grounded.polls holds alone).2
  have early : ∀ limit < 30, (scanTwice.run .silent limit padWorld).2.hub.isAlive 0 = true := by decide +kernel
  have ended : (scanTwice.run .silent 29 padWorld).1.answer?.isSome = true := by decide +kernel
  have alive (limit : Nat) : (scanTwice.run .silent limit padWorld).2.hub.isAlive 0 = true := by
    by_cases soon : limit < 30
    · exact early limit soon
    · obtain ⟨more, rfl⟩ := Nat.exists_eq_add_of_le (Nat.le_trans (Nat.le_succ 29) (Nat.le_of_not_lt soon))
      rw [run_of_answer? ended more]
      exact early 29 (by decide)
  obtain ⟨_, _, _, polls, _⟩ := keypad_keeps_polling Application.uses_silent uses start alive
  have waits (limit : Nat) : (scanTwice.run .silent limit padWorld).2.hub.isScanning 0 = true ↔
      (scanTwice.run .silent limit padWorld).2.hub.Waits padHub.nextKeypad.scan := (polls limit _ _ _ rfl).2.1
  have stopped : (scanTwice.run .silent 29 padWorld).2.hub.isScanning 0 = false := by decide +kernel
  refine ⟨(waits 16).mp (by decide +kernel), by decide +kernel, fun waiting => ?_⟩
  exact absurd (((waits 29).mpr waiting).symm.trans stopped) nofun

end LeafHub.Routine
