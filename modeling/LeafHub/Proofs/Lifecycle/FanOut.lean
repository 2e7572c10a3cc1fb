import LeafHub.Proofs.Hub.MutationEffect
import LeafHub.Proofs.Lifecycle.Carried
import LeafHub.Proofs.Lifecycle.Lookups

namespace LeafHub

variable {σ : Type}

/-- A leaf whose class was called, with what that answered. -/
structure Visit where
  leaf : LeafId
  outcome : Except Fault Unit

namespace Visit

/-- What the answer of a walk becomes with one more visit. -/
def fold (last : Except Fault Unit) (visit : Visit) : Except Fault Unit :=
  match visit.outcome with
  | .ok () => last
  | .error fault => .error fault

/-- What is left to do when the class of a leaf has been called. -/
def finish (phase : Phase) (visit : Visit) : Act Unit :=
  match visit.outcome with
  | .ok () => Hub.release visit.leaf
  | .error fault => do
    Hub.log .warn s!"{phase.name} {((← get).leaf visit.leaf).name} failed: {fault.message}"
    Hub.release visit.leaf

variable {visits before behind : List Visit} {last : Visit} {start : Except Fault Unit} {fault : Fault}

theorem foldl_of_ok (fine : ∀ visit ∈ visits, visit.outcome = .ok ()) : visits.foldl fold start = start := by
  induction visits generalizing start with
  | nil => rfl
  | cons visit rest ih =>
    have kept : fold start visit = start := by rw [fold, fine visit List.mem_cons_self]
    rw [List.foldl_cons, kept, ih fun other member => fine other (List.mem_cons_of_mem _ member)]

theorem foldl_of_last (failed : last.outcome = .error fault) (fine : ∀ visit ∈ behind, visit.outcome = .ok ()) :
    (before ++ last :: behind).foldl fold start = .error fault := by
  rw [List.foldl_append, List.foldl_cons, foldl_of_ok fine, fold, failed]

theorem all_ok_or_last (visits : List Visit) : (∀ visit ∈ visits, visit.outcome = .ok ()) ∨
    ∃ before last behind fault, visits = before ++ last :: behind ∧ last.outcome = .error fault ∧
      ∀ visit ∈ behind, visit.outcome = .ok () := by
  induction visits with
  | nil => exact .inl fun _ none => nomatch none
  | cons visit rest ih =>
    obtain fine | ⟨before, last, behind, fault, rfl, failed, fine⟩ := ih
    · cases answer : visit.outcome with
      | ok => exact .inl (List.forall_mem_cons.mpr ⟨answer, fine⟩)
      | error fault => exact .inr ⟨[], visit, rest, fault, rfl, answer, fine⟩
    · exact .inr ⟨visit :: before, last, behind, fault, rfl, failed, fine⟩

theorem foldl_eq_ok_iff : visits.foldl fold (.ok ()) = .ok () ↔ ∀ visit ∈ visits, visit.outcome = .ok () := by
  refine ⟨fun good => ?_, foldl_of_ok⟩
  obtain fine | ⟨before, last, behind, fault, rfl, failed, fine⟩ := all_ok_or_last visits
  · exact fine
  · rw [foldl_of_last failed fine] at good
    cases good

theorem foldl_eq_error_iff : visits.foldl fold (.ok ()) = .error fault ↔
    ∃ before last behind, visits = before ++ last :: behind ∧ last.outcome = .error fault ∧
      ∀ visit ∈ behind, visit.outcome = .ok () := by
  constructor
  · intro bad
    obtain fine | ⟨before, last, behind, other, rfl, failed, fine⟩ := all_ok_or_last visits
    · rw [foldl_of_ok fine] at bad
      cases bad
    · rw [foldl_of_last failed fine] at bad
      exact ⟨before, last, behind, rfl, failed.trans bad, fine⟩
  · rintro ⟨before, last, behind, rfl, failed, fine⟩
    exact foldl_of_last failed fine

end Visit

namespace Hub

/-- Nothing is new but lines in the log, and how many hold on to a leaf. -/
def OnlyHeld (hub after : Hub) : Prop :=
  ∃ lines leaves, after = { hub.withLines lines with leaves } ∧ leaves.size = hub.leaves.size ∧
    ∀ id, ∃ owners, leaves.get id = { hub.leaf id with owners }

theorem passage_onlyHeld : Passage OnlyHeld where
  refl := fun hub => ⟨[], hub.leaves, by rw [withLines_nil], rfl, fun id => ⟨(hub.leaf id).owners, rfl⟩⟩
  trans := by
    rintro first _ _ ⟨lines, leaves, rfl, size, same⟩ ⟨more, others, rfl, size', same'⟩
    refine ⟨lines ++ more, others, ?_, size'.trans size, fun id => ?_⟩
    · rw [withLines_append]
      rfl
    · obtain ⟨_, here⟩ := same id
      obtain ⟨owners, there⟩ := same' id
      have leaf : Hub.leaf { first.withLines lines with leaves } id = leaves.get id := rfl
      exact ⟨owners, by rw [there, leaf, here]⟩

theorem onlyHeld_log (level : Level) (line : String) : Act.Keeps OnlyHeld (log level line) :=
  fun hub => ⟨[(level, line)], hub.leaves, congrArg Prod.snd (run_log hub level line), rfl, fun id => ⟨(hub.leaf id).owners, rfl⟩⟩

theorem onlyHeld_set (hub : Hub) (id : LeafId) (owners : Nat) :
    hub.OnlyHeld { hub with leaves := hub.leaves.set id { hub.leaf id with owners } } := by
  refine ⟨[], _, by rw [withLines_nil], Pool.size_set _ _ _, fun other => ?_⟩
  rw [Pool.get_set]
  split
  · rename_i here
    exact ⟨owners, by rw [here.1]⟩
  · exact ⟨(hub.leaf other).owners, rfl⟩

theorem onlyHeld_retain (id : LeafId) : Act.Keeps OnlyHeld (retain id) :=
  fun hub => onlyHeld_set hub id _

theorem onlyHeld_release (id : LeafId) : Act.Keeps OnlyHeld (release id) :=
  fun hub => onlyHeld_set hub id _

theorem OnlyHeld.sameFlags {hub after : Hub} (only : hub.OnlyHeld after) : hub.SameFlags after := by
  obtain ⟨lines, leaves, rfl, _, same⟩ := only
  intro id
  obtain ⟨owners, here⟩ := same id
  have leaf : Hub.leaf { hub.withLines lines with leaves } id = { hub.leaf id with owners } := here
  rw [leaf]
  exact ⟨rfl, rfl⟩

theorem OnlyHeld.sameLists {hub after : Hub} (only : hub.OnlyHeld after) : hub.SameLists after := by
  obtain ⟨lines, leaves, rfl, size, same⟩ := only
  refine ⟨⟨Nat.le_refl _, fun _ _ => rfl, Nat.le_of_eq size.symm, fun id _ => ?_⟩, fun catalogue => ?_, rfl, rfl⟩
  · obtain ⟨owners, here⟩ := same id
    have leaf : Hub.leaf { hub.withLines lines with leaves } id = { hub.leaf id with owners } := here
    rw [leaf]
    exact ⟨rfl, rfl⟩
  · cases catalogue <;> rfl

theorem onlyHeld_finish (phase : Phase) (visit : Visit) : Act.Keeps OnlyHeld (visit.finish phase) := by
  unfold Visit.finish
  split
  · exact onlyHeld_release _
  · exact passage_onlyHeld.bind passage_onlyHeld.get fun _ =>
      passage_onlyHeld.bind (onlyHeld_log _ _) fun _ => onlyHeld_release _

end Hub

/-- The world when somebody holds on to every listed leaf. -/
def World.holdingListed (world : World σ) : World σ :=
  world.after (world.hub.leafList.forM Hub.retain)

namespace Routine

open Hub

/-- The classes of leaves are called one after the other. -/
inductive Walks (app : Application σ) (phase : Phase) : List Visit → World σ → World σ → Prop
  | nil (world) : Walks app phase [] world world
  | cons {visit rest world between after} : (callClass phase visit.leaf).Returns app world visit.outcome between →
      Walks app phase rest (between.after (visit.finish phase)) after → Walks app phase (visit :: rest) world after

variable {app : Application σ} {phase : Phase} {world after : World σ} {outcome last : Except Fault Unit}
  {ids : List LeafId} {id : LeafId} {visits : List Visit}

/-- The first leaf is visited, and the walk goes on from there. -/
theorem returns_callEach_cons_iff : (callEach phase (id :: ids) last).Returns app world outcome after ↔
    ∃ (answer : Except Fault Unit) (between : World σ), (callClass phase id).Returns app world answer between ∧
      (callEach phase ids (Visit.fold last ⟨id, answer⟩)).Returns app (between.after (Visit.finish phase ⟨id, answer⟩))
        outcome after := by
  rw [callEach, returns_bind_iff]
  refine exists_congr fun answer => exists_congr fun between => and_congr_right fun _ => ?_
  cases answer with
  | ok => exact returns_act_bind_iff
  | error fault => exact returns_act_bind_iff.trans (returns_act_bind_iff.trans returns_act_bind_iff)

theorem returns_callEach_iff : (callEach phase ids last).Returns app world outcome after ↔
    ∃ visits : List Visit, visits.map Visit.leaf = ids ∧ Walks app phase visits world after ∧
      outcome = visits.foldl Visit.fold last := by
  -- each call moves the world on and may change the answer so far
  induction ids generalizing last world with
  | nil =>
    refine returns_pure_iff.trans ⟨?_, ?_⟩
    · rintro ⟨rfl, rfl⟩
      exact ⟨[], rfl, .nil _, rfl⟩
    · rintro ⟨visits, none, walks, rfl⟩
      rw [List.map_eq_nil_iff] at none
      subst none
      cases walks
      exact ⟨rfl, rfl⟩
  | cons id rest ih =>
    rw [returns_callEach_cons_iff]
    simp only [ih]
    constructor
    · rintro ⟨answer, between, called, visits, rfl, walks, rfl⟩
      exact ⟨⟨id, answer⟩ :: visits, rfl, .cons called walks, rfl⟩
    · rintro ⟨visits, same, walks, rfl⟩
      cases walks with
      | nil => cases same
      | cons called walks =>
        cases same
        exact ⟨_, _, called, _, rfl, walks, rfl⟩

theorem returns_announce_iff : (announce phase).Returns app world outcome after ↔
    ∃ visits : List Visit, visits.map Visit.leaf = world.hub.leafList ∧ Walks app phase visits (world.holdingListed) after ∧
      outcome = visits.foldl Visit.fold (.ok ()) := by
  unfold announce
  exact returns_act_bind_iff.trans (returns_act_bind_iff.trans returns_callEach_iff)

theorem Walks.keeps {R : Hub → Hub → Prop} (passage : Passage R) (held : ∀ hub held : Hub, hub.OnlyHeld held → R hub held)
    (called : ∀ id ∈ visits.map Visit.leaf, ∀ between answer (later : World σ),
      (callClass phase id).Returns app between answer later → R between.hub later.hub)
    (walks : Walks app phase visits world after) : R world.hub after.hub := by
  induction walks with
  | nil world => exact passage.refl world.hub
  | @cons visit rest world between after here _ ih =>
    have visited : R world.hub between.hub := called _ List.mem_cons_self _ _ _ here
    have finished : R between.hub (between.after (visit.finish phase)).hub := held _ _ (onlyHeld_finish phase visit _)
    exact passage.trans visited (passage.trans finished (ih fun id member => called id (List.mem_cons_of_mem _ member)))

/-- When every class that is come to answers, the walk comes to its end. -/
theorem walks_all (answers : ∀ (visits : List Visit) id rest between, ids = visits.map Visit.leaf ++ id :: rest →
    Walks app phase visits world between → ∃ outcome after, (callClass phase id).Returns app between outcome after) :
    ∃ (visits : List Visit) (last : World σ), visits.map Visit.leaf = ids ∧ Walks app phase visits world last := by
  induction ids generalizing world with
  | nil => exact ⟨[], world, rfl, .nil world⟩
  | cons id rest ih =>
    obtain ⟨outcome, between, called⟩ := answers [] id rest world rfl (.nil world)
    let visit : Visit := ⟨id, outcome⟩
    obtain ⟨visits, last, rfl, walks⟩ : ∃ (visits : List Visit) (last : World σ), visits.map Visit.leaf = rest ∧
        Walks app phase visits (between.after (visit.finish phase)) last := ih fun visits next more there split walks =>
      answers (visit :: visits) next more there (congrArg (id :: ·) split) (.cons called walks)
    exact ⟨visit :: visits, last, rfl, .cons called walks⟩

/-- Whatever leaf the walk comes to, its class answers. -/
def Responds (app : Application σ) (phase : Phase) (world : World σ) : Prop :=
  ∀ (visits : List Visit) id rest between, world.hub.leafList = visits.map Visit.leaf ++ id :: rest →
    Walks app phase visits world.holdingListed between → ∃ outcome after, (callClass phase id).Returns app between outcome after

/-- A phase that was announced to all listed leaves. -/
structure FanOut (app : Application σ) (phase : Phase) (world : World σ) (visits : List Visit) (outcome : Except Fault Unit)
    (after : World σ) : Prop where
  order : visits.map Visit.leaf = world.hub.leafList
  once : world.hub.leafList.Nodup →
    ∀ id, (visits.map Visit.leaf).count id = if id ∈ world.hub.leafList then 1 else 0
  walked : Walks app phase visits world.holdingListed after
  ok : outcome = .ok () ↔ ∀ visit ∈ visits, visit.outcome = .ok ()
  error : ∀ fault, outcome = .error fault ↔ ∃ before last behind, visits = before ++ last :: behind ∧
    last.outcome = .error fault ∧ ∀ visit ∈ behind, visit.outcome = .ok ()
  /-- Before the first call, and after each of them, nothing changes but who holds on to a leaf. -/
  begun : world.hub.OnlyHeld world.holdingListed.hub
  finished : ∀ visit ∈ visits, Act.Keeps OnlyHeld (visit.finish phase)
  /-- What is kept by the classes is kept by the whole. -/
  kept : ∀ R : Hub → Hub → Prop, Passage R → (∀ hub held : Hub, hub.OnlyHeld held → R hub held) →
    (∀ id ∈ world.hub.leafList, ∀ between answer (later : World σ),
      (callClass phase id).Returns app between answer later → R between.hub later.hub) → R world.hub after.hub

/-- The routine announces the phase, and comes to its end if the classes let it. -/
structure FansOut (app : Application σ) (phase : Phase) (routine : Routine σ (Except Fault Unit)) (world : World σ) : Prop where
  total : Responds app phase world → ∃ outcome after, routine.Returns app world outcome after
  whole : ∀ outcome after, routine.Returns app world outcome after → ∃ visits, FanOut app phase world visits outcome after

theorem fansOut_announce (app : Application σ) (phase : Phase) (world : World σ) :
    FansOut app phase (announce phase) world := by
  have begun : world.hub.OnlyHeld world.holdingListed.hub := passage_onlyHeld.each onlyHeld_retain _ _
  constructor
  · intro responds
    obtain ⟨visits, last, order, walks⟩ := walks_all responds
    exact ⟨_, last, returns_announce_iff.mpr ⟨visits, order, walks, rfl⟩⟩
  · intro outcome after returns
    obtain ⟨visits, order, walks, rfl⟩ := returns_announce_iff.mp returns
    exact ⟨visits,
      { order
        once := fun distinct id => by rw [order, List.Nodup.count distinct]
        walked := walks
        ok := Visit.foldl_eq_ok_iff
        error := fun _ => Visit.foldl_eq_error_iff
        begun
        finished := fun visit _ => onlyHeld_finish phase visit
        kept := fun R passage held called => passage.trans (held _ _ begun) (walks.keeps passage held (order ▸ called)) }⟩

/-- No leaf is ever listed twice by what registers in known ways. -/
theorem lists_once {α : Type} (application : app.Uses Enrols) {routine : Routine σ α} (uses : routine.Uses Enrols)
    (once : world.hub.leafList.Nodup) (limit : Nat) : (routine.run app limit world).2.hub.leafList.Nodup := by
  have passage : Passage fun hub after : Hub => hub.leafList.Nodup → after.leafList.Nodup :=
    ⟨fun _ => id, fun first second => second ∘ first⟩
  refine uses.run_hub passage (fun ⟨entered, enters⟩ hub distinct => ?_) (application.body allowsTurns_enrols) world limit once
  exact ((enters.enrolled hub).explains _ (explains_holdings distinct)).firstWins.once

/-- Sleep and wake-up are announced once to each leaf that is listed when the announcement begins, in the order of the list
and whatever the classes do or answer on the way. The answer is the last fault, if there was one. -/
theorem sleep_fans_out (app : Application σ) (world : World σ) :
    FansOut app .preSleep preSleep world ∧ FansOut app .postSleep postSleep world ∧
      (∀ hub held : Hub, hub.OnlyHeld held → hub.SameFlags held ∧ hub.SameLists held) ∧
      (app.Uses Enrols → world.hub.leafList.Nodup → ∀ (α : Type) (routine : Routine σ α), routine.Uses Enrols →
        ∀ limit, (routine.run app limit world).2.hub.leafList.Nodup) :=
  ⟨fansOut_announce app .preSleep world, fansOut_announce app .postSleep world,
    fun _ _ only => ⟨only.sameFlags, only.sameLists⟩, fun application once _ _ uses => lists_once application uses once⟩

/-- Before sleep, class `0` starts over with another leaf in the list, and class `1` stops a leaf. Both fail. -/
def uneasy : Application Unit :=
  { Application.silent with
    phase := fun behaviour phase _ =>
      match phase, behaviour with
      | .preSleep, 0 => do
        discard (liftM initialise.run)
        discard (initLeaf 3)
        return .error .io
      | .preSleep, 1 => do
        discard (stopLeaf 0)
        return .error .deviceUnavailable
      | _, _ => return .ok () }

/-- Three leaves are listed, and one is not. -/
def uneasyWorld : World Unit where
  hub := { fresh .standard with
    leafList := [0, 1, 2]
    leaves := ⟨#[.fresh ⟨"c", none, .custom 0⟩ "a" none, .fresh ⟨"d", none, .custom 1⟩ "b" none,
      .fresh ⟨"e", none, .custom 2⟩ "c" none, .fresh ⟨"f", none, .inert⟩ "d" none]⟩ }
  own := ()

theorem sleep_fans_out_uneasy : ∃ visits after, preSleep.Returns uneasy uneasyWorld (.error .deviceUnavailable) after ∧
    FanOut uneasy .preSleep uneasyWorld visits (.error .deviceUnavailable) after ∧
    visits.map Visit.leaf = [0, 1, 2] ∧ after.hub.leafList = [3] := by
  have failed : ((preSleep.run uneasy 60 uneasyWorld).1.answer?.bind fun
      | .ok () => none
      | .error fault => some fault) = some .deviceUnavailable := by decide +kernel
  obtain ⟨answer, ended, fault⟩ := Option.bind_eq_some_iff.mp failed
  obtain rfl : answer = .error .deviceUnavailable := by
    cases answer with
    | ok => cases fault
    | error other => exact congrArg _ (Option.some.inj fault)
  have returns := run_eq_of_answer? ended
  obtain ⟨visits, right⟩ := (sleep_fans_out uneasy uneasyWorld).1.whole _ _ ⟨60, returns⟩
  exact ⟨visits, _, ⟨60, returns⟩, right, right.order, by decide +kernel⟩

end Routine

end LeafHub
