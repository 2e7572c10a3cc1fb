import LeafHub.Proofs.Hub.Lamp
import LeafHub.Proofs.Lifecycle.Beside
import LeafHub.Proofs.Lifecycle.Reachable
import LeafHub.Proofs.Routine.Returns

namespace LeafHub

open Hub

/-- The act that ends a stop. -/
inductive EndsStop (leaf : LeafId) : {β : Type} → Act β → Prop
  | succeeded : EndsStop leaf (endStop leaf (.ok ()))

/-- The act by which an LED is put to sleep, and stopped as well. -/
inductive Darkens (leaf : LeafId) : {β : Type} → Act β → Prop
  | preSleep : Darkens leaf (ledPhase .preSleep leaf).run

/-- What is remembered of a run of an LED. -/
@[ext]
structure Waking where
  /-- The LED has been woken since it was last darkened. -/
  awake : Prop
  /-- The LED has been woken since it was last stopped. -/
  begun : Prop

def Waking.after {β : Type} (leaf : LeafId) (act : Act β) (waking : Waking) : Waking where
  awake := Wakes leaf act ∨ waking.awake ∧ ¬Darkens leaf act
  begun := Wakes leaf act ∨ waking.begun ∧ ¬EndsStop leaf act

/-- Whatever fell before the limit has risen again. -/
def Undone (falls rises : Nat → Prop) (limit : Nat) : Prop :=
  ∀ fell < limit, falls fell → ∃ rose, fell ≤ rose ∧ rose < limit ∧ rises rose

theorem undone_succ {falls rises : Nat → Prop} {limit : Nat} :
    Undone falls rises (limit + 1) ↔ rises limit ∨ Undone falls rises limit ∧ ¬falls limit := by
  constructor
  · intro undone
    by_cases last : rises limit
    · exact .inl last
    · have risen {fell : Nat} (before : fell < limit + 1) (falls : falls fell) :
          ∃ rose, fell ≤ rose ∧ rose < limit ∧ rises rose := by
        obtain ⟨rose, late, early, rises⟩ := undone fell before falls
        have apart : rose ≠ limit := fun same => last (same ▸ rises)
        exact ⟨rose, late, Nat.lt_of_le_of_ne (Nat.lt_succ_iff.mp early) apart, rises⟩
      refine .inr ⟨fun fell before => risen (Nat.lt_succ_of_lt before), fun falls => ?_⟩
      obtain ⟨rose, late, early, _⟩ := risen (Nat.lt_succ_self limit) falls
      exact absurd late (Nat.not_le.mpr early)
  · rintro (last | ⟨undone, still⟩) fell before falls
    · exact ⟨limit, Nat.lt_succ_iff.mp before, Nat.lt_succ_self limit, last⟩
    · rcases Nat.lt_succ_iff_lt_or_eq.mp before with earlier | rfl
      · obtain ⟨rose, late, early, rises⟩ := undone fell earlier falls
        exact ⟨rose, late, Nat.lt_succ_of_lt early, rises⟩
      · exact absurd falls still

/-- The watch over an LED. Between two operations its pin follows its cells while it runs and is awake. -/
def Watch.ofLamp (leaf : LeafId) (pin : String) (cells : LedCells) (item : ItemId) : Watch Waking where
  learn := fun act waking => waking.after leaf act
  rest := fun waking hub => hub.Lamp leaf pin cells item ∧ ((hub.leaf leaf).running = true → waking.begun) ∧
    ((hub.leaf leaf).running = true → waking.awake → hub.Follows pin cells item)
  point := fun act waking hub => hub.Lamp leaf pin cells item ∧ ((hub.leaf leaf).running = true → waking.begun) ∧
    (EndsStop leaf act ∨ ((hub.leaf leaf).running = true → waking.awake → hub.Follows pin cells item))
  known := fun hub => hub.isAlive leaf = true
  point_of_rest := fun _ _ _ ⟨lamp, begun, follows⟩ => ⟨lamp, begun, .inr follows⟩

namespace Routine

variable {σ α β : Type} {leaf other : LeafId} {pin : String} {cells : LedCells} {item : ItemId} {waking : Waking} {hub : Hub}

section Acts

variable {act : Act β}

theorem stopped_of_endsStop (known : leaf < hub.leaves.size) (ends : EndsStop leaf act) :
    ((act.run hub).2.leaf leaf).running = false := by
  cases ends with
  | succeeded =>
    have same : ((endStop leaf (.ok ())).run hub).2.leaf leaf = { hub.leaf leaf with running := false } :=
      Pool.get_set_same known _
    rw [same]

/-- An LED that runs after an act has not been stopped by it. -/
theorem begun_after (known : leaf < hub.leaves.size)
    (begun : ((act.run hub).2.leaf leaf).running = true → Wakes leaf act ∨ waking.begun) :
    ((act.run hub).2.leaf leaf).running = true → (waking.after leaf act).begun := by
  intro runs
  refine (begun runs).imp_right fun begun => ⟨begun, fun ends => ?_⟩
  exact absurd (runs.symm.trans (stopped_of_endsStop known ends)) nofun

/-- What is to be shown of an act that leaves the LED what it has. -/
theorem rest_after (lamp : hub.Lamp leaf pin cells item) (later : (act.run hub).2.Lamp leaf pin cells item)
    (begun : ((act.run hub).2.leaf leaf).running = true → Wakes leaf act ∨ waking.begun)
    (follows : ((act.run hub).2.leaf leaf).running = true → waking.awake → ¬Darkens leaf act →
      (act.run hub).2.Follows pin cells item) :
    (Watch.ofLamp leaf pin cells item).rest (waking.after leaf act) (act.run hub).2 := by
  refine ⟨later, begun_after lamp.sole.known begun, fun runs awake => ?_⟩
  rcases awake with wakes | ⟨awake, still⟩
  · exact lamp.wakes wakes runs
  · exact follows runs awake still

theorem rest_of_stopped (lamp : hub.Lamp leaf pin cells item) (later : (act.run hub).2.Lamp leaf pin cells item)
    (stopped : ((act.run hub).2.leaf leaf).running = false) :
    (Watch.ofLamp leaf pin cells item).rest (waking.after leaf act) (act.run hub).2 :=
  rest_after lamp later (fun runs => absurd (runs.symm.trans stopped) nofun)
    fun runs => absurd (runs.symm.trans stopped) nofun

theorem rest_of_keepsFollowing (keeps : KeepsFollowing leaf pin cells item hub (act.run hub).2)
    (running : ((act.run hub).2.leaf leaf).running = (hub.leaf leaf).running)
    (rest : (Watch.ofLamp leaf pin cells item).rest waking hub) :
    (Watch.ofLamp leaf pin cells item).rest (waking.after leaf act) (act.run hub).2 := by
  obtain ⟨lamp, begun, shown⟩ := rest
  obtain ⟨follows, later⟩ := keeps lamp
  rw [← running] at begun shown
  exact rest_after lamp later (fun runs => .inr (begun runs)) fun runs awake _ => follows (shown runs awake)

theorem rest_of_beside (beside : act.Keeps (Stake.ofLamp leaf item pin).Beside)
    (rest : (Watch.ofLamp leaf pin cells item).rest waking hub) :
    (Watch.ofLamp leaf pin cells item).rest (waking.after leaf act) (act.run hub).2 :=
  rest_of_keepsFollowing (keepsFollowing_of_respects (beside hub).1) (beside hub).2 rest

theorem rest_takeTurn (queue : QueueId) (alive : hub.isAlive leaf = true)
    (rest : (Watch.ofLamp leaf pin cells item).rest waking hub) :
    (Watch.ofLamp leaf pin cells item).rest (waking.after leaf (Hub.takeTurn queue)) ((Hub.takeTurn queue).run hub).2 := by
  obtain ⟨lamp, begun, shown⟩ := rest
  obtain ⟨later, follows⟩ := lamp.takeTurn alive queue
  have running := (sameFlags_takeTurn queue hub leaf).2
  refine rest_after lamp later (fun runs => .inr (begun (running ▸ runs))) fun runs awake _ => ?_
  rw [running] at runs
  exact follows runs (shown runs awake)

end Acts

section Operations

/-- Acts beside the LED are watched one by one. -/
theorem guards_beside {routine : Routine σ α} (uses : routine.Uses (Act.Keeps (Stake.ofLamp leaf item pin).Beside))
    (rest : (Watch.ofLamp leaf pin cells item).rest waking hub) :
    routine.Observes (Watch.ofLamp leaf pin cells item) waking hub :=
  guards_of_uses (fun keeps _ rest => rest_of_beside keeps rest) uses rest

theorem guards_holding {body : Routine σ α} (rest : (Watch.ofLamp leaf pin cells item).rest waking hub)
    (guards : ∀ waking hub, (Watch.ofLamp leaf pin cells item).rest waking hub →
      body.Observes (Watch.ofLamp leaf pin cells item) waking hub) :
    (holding [other] body).Observes (Watch.ofLamp leaf pin cells item) waking hub := by
  have passage := Stake.passage_beside (Stake.ofLamp leaf item pin)
  unfold holding
  refine guards_bind (guards_beside (uses_act (passage.each Stake.beside_retain _)) rest) fun _ waking hub rest => ?_
  refine guards_bind (guards waking hub rest) fun _ waking hub rest => ?_
  refine guards_bind (guards_beside (uses_act (passage.each Stake.beside_release _)) rest) fun _ waking hub rest => ?_
  exact rest

/-- The class of the LED is that of LEDs. -/
theorem guards_callClass {phase : Phase} {post : Except Fault Unit → Waking → Hub → Prop}
    (rest : (Watch.ofLamp leaf pin cells item).rest waking hub)
    (called : ∀ waking, (Watch.ofLamp leaf pin cells item).rest waking hub →
      post ((ledPhase phase leaf).run.run hub).1 (waking.after leaf (ledPhase phase leaf).run) ((ledPhase phase leaf).run.run hub).2) :
    (callClass phase leaf : Routine σ (Except Fault Unit)).Guards (Watch.ofLamp leaf pin cells item) post waking hub := by
  have looked : (Watch.ofLamp leaf pin cells item).rest (waking.after leaf (get : Act Hub)) hub :=
    rest_of_beside (Stake.passage_beside _).get rest
  have phased : (liftM (ledPhase phase leaf).run : Routine σ (Except Fault Unit)).Guards (Watch.ofLamp leaf pin cells item) post
      (waking.after leaf (get : Act Hub)) hub :=
    guards_act (Watch.point_of_rest _ _ looked) fun _ => called _ looked
  rw [callClass_eq]
  refine ⟨Watch.point_of_rest _ _ rest, fun _ => ?_⟩
  show Guards (Watch.ofLamp leaf pin cells item) post (calls phase leaf (hub.leaf leaf).leafClass.callbacks) _ hub
  rw [rest.1.led]
  exact phased

theorem guards_initLeaf (rest : (Watch.ofLamp leaf pin cells item).rest waking hub) :
    (initLeaf leaf : Routine σ (Except Fault Unit)).Observes (Watch.ofLamp leaf pin cells item) waking hub := by
  refine guards_holding rest fun waking hub rest => ?_
  have began : (liftM (beginInit leaf) : Routine σ Unit).Guards (Watch.ofLamp leaf pin cells item)
      (fun _ waking hub => (Watch.ofLamp leaf pin cells item).rest waking hub ∧ (hub.leaf leaf).running = false) waking hub := by
    refine guards_act (Watch.point_of_rest _ _ rest) fun _ => ?_
    have later := (keepsFollowing_of_respects (Stake.respects_beginInit leaf hub) rest.1).2
    have stopped : (((beginInit leaf).run hub).2.leaf leaf).running = false := by
      rw [Hub.leaf, leaves_beginInit]
      exact congrArg Leaf.running (Pool.get_set_same rest.1.sole.known _)
    exact ⟨rest_of_stopped rest.1 later stopped, stopped⟩
  refine guards_bind began fun _ waking hub here => ?_
  obtain ⟨rest, stopped⟩ := here
  have inited : (callClass .init leaf : Routine σ (Except Fault Unit)).Observes (Watch.ofLamp leaf pin cells item) waking hub := by
    refine guards_callClass rest fun waking rest => ?_
    have still := (frame_sameFlags.ledPhase .init leaf hub leaf).2.trans stopped
    exact rest_of_stopped rest.1 (keepsLamp_ledPhase .init hub rest.1) still
  refine guards_bind inited fun outcome waking hub rest => ?_
  exact guards_bind (guards_beside (uses_act (Stake.beside_endInit leaf outcome)) rest) fun _ _ _ rest => rest

/-- However the class answers a start, the pin follows the cells when it has done so. -/
theorem guards_startLeaf (rest : (Watch.ofLamp leaf pin cells item).rest waking hub) :
    (startLeaf leaf : Routine σ (Except Fault Unit)).Observes (Watch.ofLamp leaf pin cells item) waking hub := by
  refine guards_holding rest fun waking hub rest => ?_
  have asked := (Stake.cataloguing_beside (Stake.ofLamp leaf item pin)).registering.beginStart leaf
  refine guards_bind (guards_beside (uses_act asked) rest) fun ready waking hub rest => ?_
  split
  · have started : (callClass .start leaf : Routine σ (Except Fault Unit)).Guards (Watch.ofLamp leaf pin cells item)
        (fun _ waking hub => (Watch.ofLamp leaf pin cells item).rest waking hub ∧ waking.begun ∧ hub.Follows pin cells item)
        waking hub := by
      refine guards_callClass rest fun waking rest => ?_
      obtain ⟨later, follows⟩ := rest.1.applyLed
      exact ⟨rest_after rest.1 later (fun _ => .inl .start) fun _ _ _ => follows, .inl .start, follows⟩
    refine guards_bind started fun outcome waking hub ⟨rest, begun, follows⟩ => ?_
    have ended : (liftM (endStart leaf outcome) : Routine σ Unit).Observes (Watch.ofLamp leaf pin cells item) waking hub := by
      refine guards_act (Watch.point_of_rest _ _ rest) fun _ => ?_
      obtain ⟨still, later⟩ := keepsFollowing_of_respects (Stake.respects_endStart leaf outcome hub) rest.1
      exact rest_after rest.1 later (fun _ => .inr begun) fun _ _ _ => still follows
    exact guards_bind ended fun _ _ _ rest => rest
  · exact rest

/-- Between the call of the class and the end of the stop the pin of a running LED is low, whatever its cells say. -/
theorem guards_stopLeaf (rest : (Watch.ofLamp leaf pin cells item).rest waking hub) :
    (stopLeaf leaf : Routine σ (Except Fault Unit)).Observes (Watch.ofLamp leaf pin cells item) waking hub := by
  refine guards_holding rest fun waking hub rest => ?_
  have stopped : (callClass .stop leaf : Routine σ (Except Fault Unit)).Guards (Watch.ofLamp leaf pin cells item)
      (fun outcome waking hub => outcome = .ok () ∧ hub.Lamp leaf pin cells item ∧
        ((hub.leaf leaf).running = true → waking.begun)) waking hub := by
    refine guards_callClass rest fun waking rest => ?_
    obtain ⟨lamp, begun, _⟩ := rest
    have running := (frame_sameFlags.ledPhase .stop leaf hub leaf).2
    have still : (((ledPhase .stop leaf).run.run hub).2.leaf leaf).running = true →
        (waking.after leaf (ledPhase .stop leaf).run).begun :=
      begun_after lamp.sole.known fun runs => .inr (begun (running ▸ runs))
    obtain ⟨after, ran, later, _⟩ := lamp.driveLed false
    have dark : (ledPhase .stop leaf).run.run hub = (.ok (), after) := ran
    rw [dark] at still ⊢
    exact ⟨rfl, later, still⟩
  refine guards_bind stopped fun outcome waking hub ⟨ok, lamp, begun⟩ => ?_
  subst ok
  have ended : (liftM (endStop leaf (.ok ())) : Routine σ Unit).Observes (Watch.ofLamp leaf pin cells item) waking hub := by
    refine guards_act ⟨lamp, begun, .inl .succeeded⟩ fun _ => ?_
    have later := (keepsFollowing_of_respects (Stake.respects_endStop leaf (.ok ()) hub) lamp).2
    exact rest_of_stopped lamp later (stopped_of_endsStop lamp.sole.known .succeeded)
  exact guards_bind ended fun _ _ _ rest => rest

theorem guards_preSleep (rest : (Watch.ofLamp leaf pin cells item).rest waking hub) :
    (callClass .preSleep leaf : Routine σ (Except Fault Unit)).Observes (Watch.ofLamp leaf pin cells item) waking hub := by
  refine guards_callClass rest fun waking rest => ?_
  have running := (frame_sameFlags.ledPhase .preSleep leaf hub leaf).2
  exact rest_after rest.1 (keepsLamp_driveLed false hub rest.1) (fun runs => .inr (rest.2.1 (running ▸ runs)))
    fun _ _ still => absurd .preSleep still

theorem guards_postSleep (rest : (Watch.ofLamp leaf pin cells item).rest waking hub) :
    (callClass .postSleep leaf : Routine σ (Except Fault Unit)).Observes (Watch.ofLamp leaf pin cells item) waking hub := by
  refine guards_callClass rest fun waking rest => ?_
  exact rest_after rest.1 (keepsLamp_ledPhase .postSleep hub rest.1) (fun _ => .inl .postSleep)
    fun runs _ _ => rest.1.wakes .postSleep runs

theorem guards_runCommand (command : Command) (args : List String) (rest : (Watch.ofLamp leaf pin cells item).rest waking hub) :
    (runCommand command args : Routine σ CommandResult).Observes (Watch.ofLamp leaf pin cells item) waking hub := by
  have kept {act : Act CommandResult} (keeps : act.Keeps (KeepsFollowing leaf pin cells item)) (flags : act.Keeps SameFlags) :
      (liftM act : Routine σ CommandResult).Observes (Watch.ofLamp leaf pin cells item) waking hub :=
    guards_act (Watch.point_of_rest _ _ rest) fun _ => rest_of_keepsFollowing (keeps hub) (flags hub leaf).2 rest
  have keeping := housekeeping_keepsFollowing leaf pin cells item
  unfold runCommand
  split
  · exact rest
  · rename_i id _
    exact kept (keeping.ledCommand (adjustsWithin_keepsFollowing leaf pin cells item id) args) (frame_sameFlags.ledCommand id args)
  · rename_i id _
    exact kept (keepsFollowing_keypadCommand id args) (frame_sameFlags.keypadCommand id args)
  · rename_i id _
    exact kept (keeping.settingsLeafCommand id args) (frame_sameFlags.settingsLeafCommand id args)
  · exact guards_ofCall rest

theorem sound_watch : (Watch.ofLamp leaf pin cells item).Sound σ (Stake.ofLamp leaf item pin).Beside where
  aside := fun keeps _ rest => rest_of_beside keeps rest
  turn := fun queue _ _ alive rest => rest_takeTurn queue alive rest
  operation := fun {_ _ waking hub} operation rest => by
    cases operation with
    | init id =>
      by_cases own : id = leaf
      · subst own
        exact guards_initLeaf rest
      · exact guards_beside (uses_initLeaf_beside own) rest
    | start id =>
      by_cases own : id = leaf
      · subst own
        exact guards_startLeaf rest
      · exact guards_beside (uses_startLeaf_beside own) rest
    | stop id =>
      by_cases own : id = leaf
      · subst own
        exact guards_stopLeaf rest
      · exact guards_beside (uses_stopLeaf_beside own) rest
    | preSleep id =>
      by_cases own : id = leaf
      · subst own
        exact guards_preSleep rest
      · exact guards_beside (uses_callClass_beside own .preSleep) rest
    | postSleep id =>
      by_cases own : id = leaf
      · subst own
        exact guards_postSleep rest
      · exact guards_beside (uses_callClass_beside own .postSleep) rest
    | command command args => exact guards_runCommand command args rest

end Operations

/-- The next act puts the LED to sleep: the act is not followed by the end of a stop. -/
def Sleeps (leaf : LeafId) (routine : Routine σ α) : Prop :=
  ∃ next, routine = .hub (ledPhase .preSleep leaf).run next ∧ ¬(next (.ok ())).Takes (EndsStop leaf)

section Runs

variable {app : Application σ} {routine : Routine σ α} {world : World σ}

theorem takes_hub {sort : ∀ {β : Type}, Act β → Prop} {act : Act β} {next : β → Routine σ α} :
    (Routine.hub act next).Takes sort ↔ sort act := by
  constructor
  · rintro ⟨_, _, _, same, sort⟩
    cases same
    exact sort
  · exact fun sort => ⟨β, act, next, rfl, sort⟩

/-- What is remembered of the LED at a point of the run. -/
def wakingAt (app : Application σ) (routine : Routine σ α) (world : World σ) (leaf : LeafId) (limit : Nat) : Waking where
  awake := Undone (fun step => (routine.run app step world).1.Takes (Darkens leaf))
    (fun step => (routine.run app step world).1.Takes (Wakes leaf)) limit
  begun := Undone (fun step => (routine.run app step world).1.Takes (EndsStop leaf))
    (fun step => (routine.run app step world).1.Takes (Wakes leaf)) limit

theorem wakingAt_succ (limit : Nat) : wakingAt app routine world leaf (limit + 1) =
    (Watch.ofLamp leaf pin cells item).remember (routine.run app limit world).1 (wakingAt app routine world leaf limit) := by
  have still {here : Routine σ α} (same : (routine.run app limit world).1 = here)
      (none : ∀ {sort : ∀ {β : Type}, Act β → Prop}, ¬here.Takes sort) :
      wakingAt app routine world leaf (limit + 1) = wakingAt app routine world leaf limit := by
    refine Waking.ext (propext (undone_succ.trans ?_)) (propext (undone_succ.trans ?_))
    · simp only [same, none, false_or, not_false_eq_true, and_true]
      rfl
    · simp only [same, none, false_or, not_false_eq_true, and_true]
      rfl
  cases here : (routine.run app limit world).1 with
  | done answer => exact still here fun ⟨_, _, _, same, _⟩ => nomatch same
  | own act next => exact still here fun ⟨_, _, _, same, _⟩ => nomatch same
  | call c next => exact still here fun ⟨_, _, _, same, _⟩ => nomatch same
  | hub act next =>
    refine Waking.ext (propext (undone_succ.trans ?_)) (propext (undone_succ.trans ?_))
    · simp only [here, takes_hub]
      rfl
    · simp only [here, takes_hub]
      rfl

section Watched

variable (application : app.Fits (Operates (Stake.ofLamp leaf item pin).Beside))
  (operates : routine.Operates (Stake.ofLamp leaf item pin).Beside) (start : world.hub.Lamp leaf pin cells item)
  (shown : (world.hub.leaf leaf).running = true → world.hub.Follows pin cells item)
  (alive : ∀ limit, (routine.run app limit world).2.hub.isAlive leaf = true)

include application operates start shown alive

theorem lamp_run (limit : Nat) : (routine.run app limit world).1.Observes (Watch.ofLamp leaf pin cells item)
    (wakingAt app routine world leaf limit) (routine.run app limit world).2.hub := by
  have before {falls rises : Nat → Prop} : Undone falls rises 0 := fun fell early => absurd early (Nat.not_lt_zero fell)
  exact sound_watch.run (Stake.cataloguing_beside _) Stake.beside_waitUntil application operates wakingAt_succ
    ⟨start, fun _ => before, fun runs _ => shown runs⟩ alive limit

/-- Every point of the run is one between two operations, unless a stop is about to end. -/
theorem rest_run {limit : Nat} (between : ¬(routine.run app limit world).1.Takes (EndsStop leaf)) :
    (Watch.ofLamp leaf pin cells item).rest (wakingAt app routine world leaf limit) (routine.run app limit world).2.hub := by
  have guards := lamp_run application operates start shown alive limit
  cases here : (routine.run app limit world).1 with
  | done answer =>
    rw [here] at guards
    exact guards
  | own act next =>
    rw [here] at guards
    exact guards.1
  | call c next =>
    rw [here] at guards
    exact guards.1
  | hub act next =>
    rw [here] at guards between
    obtain ⟨lamp, begun, ends | follows⟩ := guards.1
    · exact absurd (takes_hub.mpr ends) between
    · exact ⟨lamp, begun, follows⟩

/-- An LED that is darkened is put to sleep, or its stop ends with the next act. -/
theorem sleeps_or_endsStop {fell : Nat} (darkens : (routine.run app fell world).1.Takes (Darkens leaf)) :
    Sleeps leaf (routine.run app fell world).1 ∨ (routine.run app (fell + 1) world).1.Takes (EndsStop leaf) := by
  have guards := lamp_run application operates start shown alive fell
  obtain ⟨_, _, next, here, ⟨⟩⟩ := darkens
  rw [here] at guards
  obtain ⟨after, ran, _⟩ := guards.1.1.driveLed false
  have dark : (ledPhase .preSleep leaf).run.run (routine.run app fell world).2.hub = (.ok (), after) := ran
  by_cases ends : (next (.ok ())).Takes (EndsStop leaf)
  · refine .inr ?_
    rw [run_next, here]
    show (next ((ledPhase .preSleep leaf).run.run (routine.run app fell world).2.hub).1).Takes (EndsStop leaf)
    rwa [dark]
  · exact .inl ⟨next, here, ends⟩

/-- A running LED that has not been put to sleep since it was last woken has not been darkened since then either. -/
theorem awake_run {limit : Nat} (between : ¬(routine.run app limit world).1.Takes (EndsStop leaf))
    (runs : ((routine.run app limit world).2.hub.leaf leaf).running = true)
    (awake : Undone (fun step => Sleeps leaf (routine.run app step world).1)
      (fun step => (routine.run app step world).1.Takes (Wakes leaf)) limit) :
    (wakingAt app routine world leaf limit).awake := by
  obtain ⟨_, begun, _⟩ := rest_run application operates start shown alive between
  intro fell early darkens
  rcases sleeps_or_endsStop application operates start shown alive darkens with sleeps | ends
  · exact awake fell early sleeps
  · have apart : fell + 1 ≠ limit := fun same => between (same ▸ ends)
    obtain ⟨rose, late, before, wakes⟩ := begun runs (fell + 1) (Nat.lt_of_le_of_ne early apart) ends
    exact ⟨rose, Nat.le_of_succ_le late, before, wakes⟩

end Watched

/-- Whatever is done to an LED through the life of leaves, its cells, its command and the turns of queues, and however
often its init fails: between two operations, while it runs and has not been put to sleep since it was last started or
woken, its pin is lit exactly when its cells ask for light, unless its item is pending. This begins with the first init of
the LED, in whatever has come of a fresh hub. -/
theorem led_follows_cells (application : app.Fits (Operates (Stake.ofLamp leaf item pin).Beside))
    (operates : routine.Operates (Stake.ofLamp leaf item pin).Beside) (start : world.hub.Lamp leaf pin cells item)
    (shown : (world.hub.leaf leaf).running = true → world.hub.Follows pin cells item)
    (alive : ∀ limit, (routine.run app limit world).2.hub.isAlive leaf = true) :
    (Lives (fun _ => True) (Operates (Stake.ofLamp leaf item pin).Beside : ∀ {α : Type}, Routine σ α → Prop) ∧
      ServesQueues (Operates (Stake.ofLamp leaf item pin).Beside : ∀ {α : Type}, Routine σ α → Prop) ∧
      AllowsMutations (Act.Keeps (Stake.ofLamp leaf item pin).Beside) ∧
      AllowsOthers (.ofLamp leaf item pin) (Act.Keeps (Stake.ofLamp leaf item pin).Beside)) ∧
    StaysGrounded app ∧
    (∀ (hub : Hub) (lit : Bool), hub.Grounded → hub.led? leaf = some ⟨pin, none, lit⟩ →
      (hub.leaf leaf).leafClass.callbacks = .led → true ∉ (hub.pin pin).faults →
      (∀ item < hub.items.size, (hub.items.get item).handler ≠ .ledChange leaf) →
      (∀ other state, other ≠ leaf → hub.led? other = some state → state.pin ≠ pin) →
        ((ledPhase .init leaf).run.run ((beginInit leaf).run hub).2).2.Lamp leaf pin hub.nextLed hub.items.size ∧
        (((ledPhase .init leaf).run.run ((beginInit leaf).run hub).2).2.leaf leaf).running = false) ∧
    ∀ limit rest hub own, routine.run app limit world = (rest, ⟨hub, own⟩) → ¬rest.Takes (EndsStop leaf) →
      hub.led? leaf = some ⟨pin, some cells, (hub.pin pin).high⟩ ∧
      ((hub.leaf leaf).running = true →
        Undone (fun step => Sleeps leaf (routine.run app step world).1)
          (fun step => (routine.run app step world).1.Takes (Wakes leaf)) limit →
        hub.isPending item = false → ((hub.pin pin).high = true ↔ hub.AsksLight cells)) := by
  refine ⟨⟨?_, servesQueues_operates (Stake.cataloguing_beside _) Stake.beside_waitUntil,
    (Stake.allowsOthers_beside _).allowsMutations rfl, Stake.allowsOthers_beside _⟩, staysGrounded app,
    fun hub lit grounded holds led steady alone apart => grounded.lamp holds led steady alone apart, ?_⟩
  · exact (parts_operates (Stake.cataloguing_beside _) Stake.beside_retain Stake.beside_release fun name words _ =>
      Stake.beside_setValue name words List.not_mem_nil).lives
  · intro limit rest hub own ran between
    have still : ¬(routine.run app limit world).1.Takes (EndsStop leaf) := by rwa [ran]
    have watched := rest_run application operates start shown alive still
    have awake := awake_run application operates start shown alive still
    rw [ran] at watched awake
    obtain ⟨lamp, _, follows⟩ := watched
    refine ⟨lamp.holds, fun runs undone idle => ?_⟩
    rcases follows runs (awake runs undone) with pending | same
    · exact absurd (pending.symm.trans idle) nofun
    · exact same

/-- A call of the class of an LED takes two steps. -/
theorem run_callClass_led {routine : Routine σ (Except Fault Unit)} {between : World σ} {phase : Phase} {limit : Nat}
    (reached : routine.run app limit world = (callClass phase leaf, between))
    (led : (between.hub.leaf leaf).leafClass.callbacks = .led) :
    routine.run app (limit + 1) world = (liftM (ledPhase phase leaf).run, between) ∧
      routine.run app (limit + 2) world =
        (.done ((ledPhase phase leaf).run.run between.hub).1, ⟨((ledPhase phase leaf).run.run between.hub).2, between.own⟩) := by
  have called : routine.run app (limit + 1) world = (liftM (ledPhase phase leaf).run, between) := by
    rw [run_next, reached, callClass_eq]
    show (calls phase leaf (between.hub.leaf leaf).leafClass.callbacks, between) = _
    rw [led]
    rfl
  refine ⟨called, ?_⟩
  rw [run_next, called]
  rfl

end Runs

/-- A hub with one LED. -/
def lampHub : Hub :=
  { fresh .standard with
    leaves := ⟨#[Leaf.fresh ⟨"lamp", none, .led⟩ "led" (some (.ledOn "pin"))]⟩
    pins := [("pin", ⟨[], false⟩)] }

/-- The LED has been inited. -/
def lampWorld : World Unit where
  hub := ((ledPhase .init 0).run.run ((beginInit 0).run lampHub).2).2
  own := ()

/-- Starts the LED, puts it on and then to sleep. -/
def lightUp : Routine Unit (Except Fault Unit) := do
  discard (initLeaf 0)
  discard (startLeaf 0)
  discard (store lampHub.nextLed.on (.bool true)).run
  discard (drain ownQueue)
  callClass .preSleep 0

/-- Wakes it after that. -/
def wakeUp : Routine Unit (Except Fault Unit) := do
  discard lightUp
  callClass .postSleep 0

/-- The LED is asleep. -/
def darkWorld : World Unit :=
  ((discard lightUp : Routine Unit PUnit).run .silent 19 lampWorld).2

theorem led_follows_cells_waking :
    (darkWorld.hub.pin "pin").high = false ∧
      ∃ limit hub own answer, wakeUp.run .silent limit lampWorld = (.done answer, ⟨hub, own⟩) ∧
        (hub.leaf 0).running = true ∧ hub.AsksLight lampHub.nextLed ∧ (hub.pin "pin").high = true := by
  have beside := Stake.allowsOthers_beside (.ofLamp 0 0 "pin")
  have operates : wakeUp.Operates (Stake.ofLamp 0 0 "pin").Beside := by
    have discarded {α : Type} {routine : Routine Unit α} (operates : routine.Operates (Stake.ofLamp 0 0 "pin").Beside) :
        (discard routine).Operates (Stake.ofLamp 0 0 "pin").Beside := .bound operates fun _ => .answered _
    refine .bound (discarded ?_) fun _ => .operation (.postSleep 0)
    refine .bound (discarded (.operation (.init 0))) fun _ => ?_
    refine .bound (discarded (.operation (.start 0))) fun _ => ?_
    refine .bound (discarded (.aside (beside.store lampHub.nextLed.on List.not_mem_nil (.bool true)))) fun _ => ?_
    exact .bound (discarded (.called _)) fun _ => .operation (.preSleep 0)
  have grounded : lampHub.Grounded := (reachable_single .standard _ [] rfl).rooted.grounded
  have elsewhere (other : LeafId) (state : LedState) (apart : other ≠ 0) (led : lampHub.led? other = some state) :
      state.pin ≠ "pin" := by
    have nobody : lampHub.leaf other = default := Pool.get_unknown (Nat.pos_of_ne_zero apart)
    rw [led?, nobody] at led
    cases led
  have inited : lampWorld.hub.Lamp 0 "pin" lampHub.nextLed lampHub.items.size ∧ (lampWorld.hub.leaf 0).running = false := by
    simp only [lampWorld]
    exact grounded.lamp rfl rfl (by decide) (fun item known => absurd known (Nat.not_lt_zero item)) elsewhere
  obtain ⟨start, stopped⟩ := inited
  have early : ∀ limit < 22, (wakeUp.run .silent limit lampWorld).2.hub.isAlive 0 = true := by decide +kernel
  have ended : (wakeUp.run .silent 21 lampWorld).1.answer?.isSome = true := by decide +kernel
  have alive (limit : Nat) : (wakeUp.run .silent limit lampWorld).2.hub.isAlive 0 = true := by
    by_cases soon : limit < 22
    · exact early limit soon
    · obtain ⟨more, rfl⟩ := Nat.exists_eq_add_of_le (Nat.le_trans (Nat.le_succ 21) (Nat.le_of_not_lt soon))
      rw [run_of_answer? ended more]
      exact early 21 (by decide)
  obtain ⟨_, _, _, follows⟩ := led_follows_cells (Application.fits_silent composes_operates) operates start
    (fun runs => Bool.noConfusion (runs.symm.trans stopped)) alive
  have quiet : ((discard lightUp : Routine Unit PUnit).run .silent 19 lampWorld).1.answer? = some () := by decide +kernel
  obtain ⟨used, reached⟩ := run_bind_of_done (run_eq_of_answer? quiet) fun _ => callClass .postSleep 0
  change wakeUp.run .silent used lampWorld = (callClass .postSleep 0, darkWorld) at reached
  have led : (darkWorld.hub.leaf 0).leafClass.callbacks = .led := by decide +kernel
  obtain ⟨called, woken⟩ := run_callClass_led reached led
  have waking : (wakeUp.run .silent (used + 1) lampWorld).1.Takes (Wakes 0) := by
    rw [called]
    exact ⟨_, _, _, rfl, .postSleep⟩
  have shown : (((ledPhase .postSleep 0).run.run darkWorld.hub).2.leaf 0).running = true ∧
      ((ledPhase .postSleep 0).run.run darkWorld.hub).2.isPending 0 = false ∧
      ((ledPhase .postSleep 0).run.run darkWorld.hub).2.value lampHub.nextLed.on = .bool true ∧
      ((ledPhase .postSleep 0).run.run darkWorld.hub).2.value lampHub.nextLed.duty = .byte 50 := by decide +kernel
  have dark : (darkWorld.hub.pin "pin").high = false := by decide +kernel
  generalize ((ledPhase .postSleep 0).run.run darkWorld.hub).2 = hub at shown woken
  obtain ⟨runs, idle, on, duty⟩ := shown
  have asks : hub.AsksLight lampHub.nextLed := ⟨on, 50, duty, by decide⟩
  obtain ⟨_, same⟩ := follows (used + 2) _ _ _ woken fun takes => by
    obtain ⟨_, _, _, ended, _⟩ := takes
    cases ended
  have lit := (same runs (undone_succ.mpr (.inl waking)) idle).mpr asks
  exact ⟨dark, used + 2, hub, _, _, woken, runs, asks, lit⟩

end Routine

end LeafHub
