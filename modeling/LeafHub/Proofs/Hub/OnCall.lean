import Mathlib.Logic.Relation
import LeafHub.Proofs.Hub.MutationEffect
import LeafHub.Proofs.Work.Bystander
import LeafHub.Proofs.Work.History

namespace LeafHub

variable {item : ItemId}

/-- A run of the item is among what happened. -/
def Began (item : ItemId) (past : List Happening) : Prop :=
  ∃ label, .began item label ∈ past

/-- One of the cells changed, and the item has not begun to run since. -/
def Owed (attached : CellId → Prop) (item : ItemId) (past : List Happening) : Prop :=
  ∃ earlier happening later id, past = earlier ++ happening :: later ∧ happening.changed? = some id ∧ attached id ∧
    ¬Began item later

theorem began_append {past more : List Happening} : Began item (past ++ more) ↔ Began item past ∨ Began item more := by
  simp only [Began, List.mem_append, exists_or]

/-- Neither a change of a cell nor a run of the item. -/
def Idle (item : ItemId) (happening : Happening) : Prop :=
  happening.changed? = none ∧ ∀ label, happening ≠ .began item label

theorem idle_of_plain {happening : Happening} (plain : happening.isPlain = true) : Idle item happening := by
  cases happening with
  | stored | counted | posted | began => cases plain
  | _ => exact ⟨rfl, nofun⟩

theorem not_began_of_idle {past : List Happening} (idle : ∀ happening ∈ past, Idle item happening) :
    ¬Began item past := by
  rintro ⟨label, member⟩
  exact (idle _ member).2 label rfl

theorem not_owed_of_idle {attached : CellId → Prop} {past : List Happening}
    (idle : ∀ happening ∈ past, Idle item happening) : ¬Owed attached item past := by
  rintro ⟨earlier, happening, later, id, rfl, changed, _, _⟩
  rw [(idle happening (by simp)).1] at changed
  cases changed

theorem owed_append {attached : CellId → Prop} {past more : List Happening} :
    Owed attached item (past ++ more) ↔ Owed attached item more ∨ Owed attached item past ∧ ¬Began item more := by
  constructor
  · rintro ⟨earlier, happening, later, id, split, changed, own, quiet⟩
    obtain ⟨between, rfl, rest⟩ | ⟨between, rfl, rest⟩ := List.append_eq_append_iff.mp split
    · exact .inl ⟨between, happening, later, id, rest, changed, own, quiet⟩
    · cases between with
      | nil => exact .inl ⟨[], happening, later, id, rest.symm, changed, own, quiet⟩
      | cons first between =>
        rw [List.cons_append] at rest
        cases rest
        rw [began_append, not_or] at quiet
        exact .inr ⟨⟨earlier, happening, between, id, rfl, changed, own, quiet.1⟩, quiet.2⟩
  · rintro (⟨earlier, happening, later, id, rfl, changed, own, quiet⟩ |
      ⟨⟨earlier, happening, later, id, rfl, changed, own, quiet⟩, still⟩)
    · exact ⟨past ++ earlier, happening, later, id, by simp, changed, own, quiet⟩
    · refine ⟨earlier, happening, later ++ more, id, by simp, changed, own, ?_⟩
      rw [began_append, not_or]
      exact ⟨quiet, still⟩

theorem owed_single {attached : CellId → Prop} {happening : Happening} :
    Owed attached item [happening] ↔ ∃ id, happening.changed? = some id ∧ attached id := by
  constructor
  · rintro ⟨earlier, other, later, id, single, changed, own, _⟩
    cases earlier with
    | nil =>
      cases single
      exact ⟨id, changed, own⟩
    | cons first rest => simp at single
  · rintro ⟨id, changed, own⟩
    exact ⟨[], happening, [], id, rfl, changed, own, by simp [Began]⟩

namespace Hub

/-- The item is the subscriber of the cell. -/
def Attached (hub : Hub) (item : ItemId) (id : CellId) : Prop :=
  (hub.cell id).subscriber = some item

theorem subscriber_of_unknown {hub : Hub} {id : CellId} (unknown : hub.cells.size ≤ id) :
    (hub.cell id).subscriber = none := by
  rw [cell, Pool.get_unknown unknown]
  rfl

theorem known_of_attached {hub : Hub} {id : CellId} (attached : hub.Attached item id) : id < hub.cells.size := by
  by_contra unknown
  rw [Attached, subscriber_of_unknown (Nat.le_of_not_lt unknown)] at attached
  cases attached

/-- A keypad leaf runs the item to scan its keys. -/
def Scans (hub : Hub) (item : ItemId) : Prop :=
  ∃ id bus cells scanning, hub.keypad? id = some ⟨bus, some cells, scanning⟩ ∧ cells.scan = item

/-- What happened was not about the item. -/
structure Unconcerned (item : ItemId) (hub after : Hub) : Prop where
  known : hub.items.size ≤ after.items.size
  same : item < hub.items.size → after.items.get item = hub.items.get item
  orderly : (hub.queueOf item).Orderly → (after.queues.get (hub.items.get item).queue).Orderly
  ready : item ∈ (after.queues.get (hub.items.get item).queue).ready ↔ item ∈ (hub.queueOf item).ready
  opened : (hub.queueOf item).closed = false → (after.queues.get (hub.items.get item).queue).closed = false
  owned : (hub.queueOf item).owners ≠ 0 → (after.queues.get (hub.items.get item).queue).owners ≠ 0
  unready : ∀ id, item ∉ (hub.queues.get id).ready → item ∉ (after.queues.get id).ready
  undelayed : ∀ id, item ∉ (hub.queues.get id).delayed.map Prod.snd → item ∉ (after.queues.get id).delayed.map Prod.snd
  attached : ∀ id, after.Attached item id ↔ hub.Attached item id
  scans : after.Scans item → hub.Scans item
  past : ∃ more, after.journal.toList = hub.journal.toList ++ more ∧ ∀ happening ∈ more, Idle item happening

/-- The hub after a turn of a queue, when the handler of what the turn started is about to run. -/
def turned (hub : Hub) (id : QueueId) : Hub :=
  { hub with
    queues := hub.queues.set id ((hub.queues.get id).turn hub.clock).2
    journal := match ((hub.queues.get id).turn hub.clock).1 with
      | some item => hub.journal.push (.began item (hub.items.get item).label)
      | none => hub.journal }

theorem get_turned (hub : Hub) (queue id : QueueId) : (hub.turned queue).queues.get id =
    if id = queue ∧ queue < hub.queues.size then ((hub.queues.get id).turn hub.clock).2 else hub.queues.get id := by
  unfold turned
  rw [Pool.get_set]
  split
  · rename_i here
    rw [here.1]
  · rfl

theorem run_takeTurn (hub : Hub) (id : QueueId) : (takeTurn id).run hub =
    match ((hub.queues.get id).turn hub.clock).1 with
    | some item => (runHandler (hub.items.get item).handler).run (hub.turned id)
    | none => (.nothing, hub.turned id) := by
  unfold takeTurn turned WorkQueue.turn
  simp only [StateT.run_bind, StateT.run_get, pure_bind]
  cases ((hub.queues.get id).promoteDue hub.clock).takeReady? with
  | none => rfl
  | some pair =>
    dsimp only
    rw [← Pool.set_set hub.queues id ((hub.queues.get id).promoteDue hub.clock) pair.2]
    rfl

/-- One of the things that may happen while the item waits for changes of its cells. -/
inductive AttendStep (item : ItemId) : Hub → Hub → Prop
  | aside {hub after} : Unconcerned item hub after → AttendStep item hub after
  | told (hub id) (happening : Happening) : happening.changed? = some id → AttendStep item hub ((do
      note happening
      notify id : Act Unit).run hub).2
  | rescan (hub id bus) (cells : KeypadCells) (delay) : hub.keypad? id = some ⟨bus, some cells, true⟩ →
      AttendStep item hub ((schedule cells.scan delay).run hub).2
  | turned (hub id) : AttendStep item hub (hub.turned id)

/-- Nothing was done to the item but what changes of its cells and turns of its queue do. -/
def Attended (item : ItemId) : Hub → Hub → Prop :=
  Relation.ReflTransGen (AttendStep item)

theorem unconcerned_of_spares {hub after : Hub} (items : after.items = hub.items)
    (queues : ∀ id, (hub.queues.get id).Spares item (after.queues.get id) ∧
      ((hub.queues.get id).Orderly → (after.queues.get id).Orderly))
    (subscriber : ∀ id, (after.cell id).subscriber = (hub.cell id).subscriber)
    (scans : after.Scans item → hub.Scans item)
    (past : ∃ more, after.journal.toList = hub.journal.toList ++ more ∧ ∀ happening ∈ more, Idle item happening) :
    hub.Unconcerned item after where
  known := Nat.le_of_eq (by rw [items])
  same := fun _ => by rw [items]
  orderly := (queues _).2
  ready := (queues _).1.ready
  opened := fun opened => (queues _).1.closed.trans opened
  owned := fun owned => (queues (hub.items.get item).queue).1.owners.trans_ne owned
  unready := fun id absent => fun member => absent ((queues id).1.ready.mp member)
  undelayed := fun id absent => fun member => absent ((queues id).1.delayed.mp member)
  attached := fun id => by rw [Attached, Attached, subscriber]
  scans := scans
  past := past

theorem unconcerned_of_same {hub after : Hub} (items : after.items = hub.items) (queues : after.queues = hub.queues)
    (subscriber : ∀ id, (after.cell id).subscriber = (hub.cell id).subscriber)
    (scans : after.Scans item → hub.Scans item) (journal : after.journal = hub.journal) :
    hub.Unconcerned item after := by
  refine unconcerned_of_spares items (fun id => ?_) subscriber scans ⟨[], by simp [journal], nofun⟩
  rw [queues]
  exact ⟨.refl item _, fun orderly => orderly⟩

theorem unconcerned_noted (hub : Hub) {happening : Happening} (plain : happening.isPlain = true) :
    hub.Unconcerned item { hub with journal := hub.journal.push happening } :=
  unconcerned_of_spares rfl (fun id => ⟨.refl item _, fun orderly => orderly⟩) (fun _ => rfl) (fun scans => scans)
    ⟨[happening], by simp, fun other member => List.mem_singleton.mp member ▸ idle_of_plain plain⟩

section Requests

variable {other : ItemId} (apart : item ≠ other)

include apart

theorem unconcerned_askQueue {ask : WorkQueue → Bool × WorkQueue} (asks : WorkQueue.AsksAbout other ask) :
    Act.Keeps (Unconcerned item) (askQueue other ask) := by
  intro hub
  rw [run_askQueue]
  split
  · exact unconcerned_of_same rfl rfl (fun _ => rfl) (fun scans => scans) rfl
  · refine unconcerned_of_spares rfl (fun id => ?_) (fun _ => rfl) (fun scans => scans) ⟨[], by simp, nofun⟩
    dsimp only
    rw [get_asked]
    split
    · exact ⟨asks.spares apart _, asks.orderly⟩
    · exact ⟨.refl item _, fun orderly => orderly⟩

theorem unconcerned_submit : Act.Keeps (Unconcerned item) (submit other) :=
  keeps_submit (fun _ _ hub => unconcerned_noted hub rfl) (unconcerned_askQueue apart (WorkQueue.asksAbout_submit other))

theorem unconcerned_schedule (delay : Nat) : Act.Keeps (Unconcerned item) (schedule other delay) :=
  Passage.look fun hub => unconcerned_askQueue apart (WorkQueue.asksAbout_schedule other (hub.clock + delay)) hub

theorem unconcerned_reschedule (delay : Nat) : Act.Keeps (Unconcerned item) (reschedule other delay) :=
  Passage.look fun hub => unconcerned_askQueue apart (WorkQueue.asksAbout_reschedule other (hub.clock + delay)) hub

theorem unconcerned_cancel : Act.Keeps (Unconcerned item) (cancel other) :=
  unconcerned_askQueue apart (WorkQueue.asksAbout_cancel other)

end Requests

/-- The queue of the item takes it, and nothing but changes of cells brings it there. -/
structure OnCall (hub : Hub) (item : ItemId) : Prop where
  known : item < hub.items.size
  orderly : (hub.queueOf item).Orderly
  opened : (hub.queueOf item).closed = false
  owned : (hub.queueOf item).owners ≠ 0
  elsewhere : ∀ id, id ≠ (hub.items.get item).queue → item ∉ (hub.queues.get id).ready
  undelayed : ∀ id, item ∉ (hub.queues.get id).delayed.map Prod.snd
  unscanned : ¬hub.Scans item

/-- After what happened the item is pending if that left it something to do, or if it was and has not begun since. -/
structure Answers (item : ItemId) (hub after : Hub) : Prop where
  same : after.items.get item = hub.items.get item
  attached : ∀ id, after.Attached item id ↔ hub.Attached item id
  past : ∃ more, after.journal.toList = hub.journal.toList ++ more ∧ (after.isPending item = true ↔
    Owed (hub.Attached item) item more ∨ hub.isPending item = true ∧ ¬Began item more)

theorem Answers.refl (item : ItemId) (hub : Hub) : hub.Answers item hub := by
  have idle : ∀ happening ∈ ([] : List Happening), Idle item happening := fun _ member => nomatch member
  refine ⟨rfl, fun _ => Iff.rfl, [], by simp, ?_⟩
  simp [not_owed_of_idle idle, not_began_of_idle idle]

theorem Answers.trans {first second third : Hub} (one : first.Answers item second) (two : second.Answers item third) :
    first.Answers item third := by
  obtain ⟨past, journal, pending⟩ := one.past
  obtain ⟨more, journal', pending'⟩ := two.past
  have attached : second.Attached item = first.Attached item := funext fun id => propext (one.attached id)
  refine ⟨two.same.trans one.same, fun id => (two.attached id).trans (one.attached id), past ++ more, ?_, ?_⟩
  · rw [journal', journal, List.append_assoc]
  · rw [pending', pending, attached, owed_append, began_append, or_and_right, and_assoc, not_or, or_assoc]

theorem OnCall.pending_iff {hub : Hub} (onCall : hub.OnCall item) :
    hub.isPending item = true ↔ item ∈ (hub.queueOf item).ready :=
  onCall.orderly.pending_iff item

theorem OnCall.aside {hub after : Hub} (onCall : hub.OnCall item) (aside : Unconcerned item hub after) :
    after.OnCall item ∧ hub.Answers item after := by
  have same := aside.same onCall.known
  have queue : after.queueOf item = after.queues.get (hub.items.get item).queue := by rw [queueOf, same]
  have later : after.OnCall item :=
    { known := Nat.lt_of_lt_of_le onCall.known aside.known
      orderly := queue ▸ aside.orderly onCall.orderly
      opened := queue ▸ aside.opened onCall.opened
      owned := queue ▸ aside.owned onCall.owned
      elsewhere := fun id apart => aside.unready id (onCall.elsewhere id (same ▸ apart))
      undelayed := fun id => aside.undelayed id (onCall.undelayed id)
      unscanned := fun scans => onCall.unscanned (aside.scans scans) }
  obtain ⟨more, journal, idle⟩ := aside.past
  refine ⟨later, same, aside.attached, more, journal, ?_⟩
  rw [later.pending_iff, onCall.pending_iff, queue, aside.ready]
  simp [not_owed_of_idle idle, not_began_of_idle idle]

/-- What is noted about other cells does not matter either. -/
theorem OnCall.noted {hub : Hub} (onCall : hub.OnCall item) {happening : Happening} {id : CellId}
    (changed : happening.changed? = some id) :
    OnCall { hub with journal := hub.journal.push happening } item ∧
      (¬hub.Attached item id → hub.Answers item { hub with journal := hub.journal.push happening }) := by
  refine ⟨⟨onCall.known, onCall.orderly, onCall.opened, onCall.owned, onCall.elsewhere, onCall.undelayed,
    onCall.unscanned⟩, fun apart => ⟨rfl, fun _ => Iff.rfl, [happening], by simp, ?_⟩⟩
  have quiet : ¬Began item [happening] := by
    rintro ⟨label, member⟩
    rw [List.mem_singleton] at member
    rw [← member] at changed
    cases changed
  have settled : ¬Owed (hub.Attached item) item [happening] := by
    rw [owed_single]
    rintro ⟨other, changed', attached⟩
    rw [changed] at changed'
    cases changed'
    exact apart attached
  have same : isPending { hub with journal := hub.journal.push happening } item = hub.isPending item := rfl
  rw [same]
  simp [settled, quiet]

/-- Another state of its queue in which the item is on call. -/
theorem OnCall.requeue {hub : Hub} (onCall : hub.OnCall item) {queue : WorkQueue} (journal : Array Happening)
    (orderly : queue.Orderly) (opened : queue.closed = (hub.queueOf item).closed)
    (owned : queue.owners = (hub.queueOf item).owners) (undelayed : item ∉ queue.delayed.map Prod.snd) :
    OnCall { hub with queues := hub.queues.set (hub.items.get item).queue queue, journal } item ∧
      queueOf { hub with queues := hub.queues.set (hub.items.get item).queue queue, journal } item = queue := by
  have there : (hub.queues.set (hub.items.get item).queue queue).get (hub.items.get item).queue = queue :=
    Pool.get_set_same (known_of_owned onCall.owned) queue
  have others {id : QueueId} (apart : id ≠ (hub.items.get item).queue) :
      (hub.queues.set (hub.items.get item).queue queue).get id = hub.queues.get id := Pool.get_set_other apart queue
  have own : queueOf { hub with queues := hub.queues.set (hub.items.get item).queue queue, journal } item = queue := there
  refine ⟨⟨onCall.known, own.symm ▸ orderly, ?_, ?_, fun id apart => ?_, fun id => ?_, onCall.unscanned⟩, own⟩
  · rw [own, opened, onCall.opened]
  · rw [own, owned]
    exact onCall.owned
  · exact (others apart).symm ▸ onCall.elsewhere id apart
  · by_cases here : id = (hub.items.get item).queue
    · rw [here]
      exact there.symm ▸ undelayed
    · exact (others here).symm ▸ onCall.undelayed id

/-- A change of a cell of the item leaves the item pending. -/
theorem OnCall.toldOwn {hub : Hub} (onCall : hub.OnCall item) {happening : Happening} {id : CellId}
    (changed : happening.changed? = some id) (attached : hub.Attached item id) :
    OnCall ((submit item).run { hub with journal := hub.journal.push happening }).2 item ∧
      hub.Answers item ((submit item).run { hub with journal := hub.journal.push happening }).2 := by
  have submitted : ((submit item).run { hub with journal := hub.journal.push happening }).2 =
      { hub with
        queues := hub.queues.set (hub.items.get item).queue ((hub.queueOf item).submit item).2
        journal := hub.journal.push happening } := by
    have owned : (queueOf { hub with journal := hub.journal.push happening } item).owners ≠ 0 := onCall.owned
    rw [run_submit, if_neg owned, run_askQueue, if_neg owned]
    rfl
  obtain ⟨pending, delayed, closed, owners⟩ := WorkQueue.submit_self onCall.opened item
  obtain ⟨later, own⟩ := onCall.requeue (hub.journal.push happening) (onCall.orderly.submit item) closed owners
    (delayed ▸ onCall.undelayed _)
  rw [submitted]
  refine ⟨later, rfl, fun _ => Iff.rfl, [happening], by simp, ?_⟩
  rw [isPending, own]
  simp only [pending, true_iff]
  exact .inl (owed_single.mpr ⟨id, changed, attached⟩)

theorem OnCall.told {hub : Hub} (onCall : hub.OnCall item) (id : CellId) {happening : Happening}
    (changed : happening.changed? = some id) :
    OnCall ((do note happening; notify id : Act Unit).run hub).2 item ∧
      hub.Answers item ((do note happening; notify id : Act Unit).run hub).2 := by
  obtain ⟨noted, answers⟩ := onCall.noted changed
  have notified : ((do note happening; notify id : Act Unit).run hub).2 =
      ((notify id).run { hub with journal := hub.journal.push happening }).2 := rfl
  have subscriber : (Hub.cell { hub with journal := hub.journal.push happening } id).subscriber =
      (hub.cell id).subscriber := rfl
  rw [notified, run_notify, subscriber]
  cases holder : (hub.cell id).subscriber with
  | none =>
    have apart : ¬hub.Attached item id := by simp [Attached, holder]
    exact ⟨noted, answers apart⟩
  | some other =>
    by_cases own : item = other
    · subst own
      exact onCall.toldOwn changed holder
    · have apart : ¬hub.Attached item id := by simp [Attached, holder, Ne.symm own]
      obtain ⟨later, more⟩ := noted.aside (unconcerned_submit own { hub with journal := hub.journal.push happening })
      exact ⟨later, (answers apart).trans more⟩

/-- A turn that does not start the item does not concern it. -/
theorem OnCall.unconcerned_turned {hub : Hub} (onCall : hub.OnCall item) {id : QueueId}
    (other : ((hub.queues.get id).turn hub.clock).1 ≠ some item) : hub.Unconcerned item (hub.turned id) := by
  refine unconcerned_of_spares rfl (fun queue => ?_) (fun _ => rfl) (fun scans => scans) ?_
  · show WorkQueue.Spares item _ ((hub.queues.set id _).get queue) ∧ (_ → ((hub.queues.set id _).get queue).Orderly)
    rw [Pool.get_set]
    split
    · rename_i here
      rw [here.1]
      exact ⟨WorkQueue.spares_turn (onCall.undelayed id) other, fun orderly => orderly.turn hub.clock⟩
    · exact ⟨.refl item _, fun orderly => orderly⟩
  · unfold turned
    cases starts : ((hub.queues.get id).turn hub.clock).1 with
    | none => exact ⟨[], by simp, nofun⟩
    | some first =>
      have apart : first ≠ item := fun same => other (same ▸ starts)
      refine ⟨[.began first (hub.items.get first).label], by simp, fun happening member => ?_⟩
      rw [List.mem_singleton.mp member]
      exact ⟨rfl, fun label same => apart (Happening.began.inj same).1⟩

theorem OnCall.turned {hub : Hub} (onCall : hub.OnCall item) (id : QueueId) :
    (hub.turned id).OnCall item ∧ hub.Answers item (hub.turned id) := by
  by_cases starts : ((hub.queues.get id).turn hub.clock).1 = some item
  · have own : id = (hub.items.get item).queue := by
      by_contra apart
      exact onCall.elsewhere id apart (WorkQueue.mem_ready_of_turn (onCall.undelayed id) starts)
    subst own
    have turned : hub.turned (hub.items.get item).queue =
        { hub with
          queues := hub.queues.set (hub.items.get item).queue ((hub.queueOf item).turn hub.clock).2
          journal := hub.journal.push (.began item (hub.items.get item).label) } := by
      unfold Hub.turned
      rw [starts]
      rfl
    obtain ⟨unready, undelayed, closed, owners⟩ :=
      WorkQueue.turn_of_starts onCall.orderly (onCall.undelayed _) starts
    obtain ⟨later, queue⟩ := onCall.requeue (hub.journal.push (.began item (hub.items.get item).label))
      (onCall.orderly.turn hub.clock) closed owners undelayed
    rw [turned]
    refine ⟨later, rfl, fun _ => Iff.rfl, [.began item (hub.items.get item).label], by simp, ?_⟩
    rw [later.pending_iff, queue, owed_single]
    refine ⟨fun member => absurd member unready, ?_⟩
    rintro (⟨_, changed, _⟩ | ⟨_, quiet⟩)
    · cases changed
    · exact absurd ⟨_, List.mem_singleton_self _⟩ quiet
  · exact onCall.aside (onCall.unconcerned_turned starts)

theorem OnCall.step {hub after : Hub} (onCall : hub.OnCall item) (step : AttendStep item hub after) :
    after.OnCall item ∧ hub.Answers item after := by
  cases step with
  | aside aside => exact onCall.aside aside
  | told id happening changed => exact onCall.told id changed
  | rescan id bus cells delay scans =>
    have apart : item ≠ cells.scan := fun same => onCall.unscanned ⟨id, bus, cells, true, scans, same.symm⟩
    exact onCall.aside (unconcerned_schedule apart delay hub)
  | turned id => exact onCall.turned id

/-- Whatever happens, the item answers the changes of its cells and stays on call. -/
theorem Attended.answers {hub after : Hub} (attended : Attended item hub after) (onCall : hub.OnCall item) :
    after.OnCall item ∧ hub.Answers item after := by
  induction attended with
  | refl => exact ⟨onCall, .refl item hub⟩
  | tail _ step ih =>
    obtain ⟨between, answers⟩ := ih
    obtain ⟨later, more⟩ := between.step step
    exact ⟨later, answers.trans more⟩

end Hub

end LeafHub
