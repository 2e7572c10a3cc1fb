import LeafHub.Proofs.Hub.LeafFrame
import LeafHub.Proofs.Work.Account

namespace LeafHub

/-- A request to a queue and the runs that it started. -/
structure WorkEvent where
  queue : QueueId
  request : WorkRequest
  started : List ItemId

namespace Hub

/-- The runs that have begun, from the first on. -/
def begun (hub : Hub) : List ItemId :=
  hub.journal.toList.filterMap fun
    | .began item _ => some item
    | _ => none

/-- Nothing happened to the queues. New ones may have been made, and owners may have come and gone. -/
structure Quiet (hub after : Hub) : Prop where
  size : hub.queues.size ≤ after.queues.size
  queues : ∀ id < hub.queues.size, ∃ owners, after.queues.get id = (hub.queues.get id).withOwners owners
  begun : after.begun = hub.begun
  clock : hub.clock ≤ after.clock

/-- A turn is given at the time it is, and a deadline is not in the past. -/
def OnTime (now : Nat) : WorkRequest → Prop
  | .turn time => time = now
  | .schedule _ deadline | .reschedule _ deadline => now ≤ deadline
  | _ => True

/-- One request to one queue. -/
structure Happens (event : WorkEvent) (hub after : Hub) : Prop where
  known : event.queue < hub.queues.size
  onTime : OnTime hub.clock event.request
  queues : after.queues = hub.queues.set event.queue ((hub.queues.get event.queue).after event.request)
  started : event.started = (hub.queues.get event.queue).started event.request
  begun : after.begun = hub.begun ++ event.started
  clock : after.clock = hub.clock

/-- The requests between two states of a hub, in order. -/
inductive WorkPath (start : Hub) : List WorkEvent → Hub → Prop
  | start : WorkPath start [] start
  | quiet {past between after} : WorkPath start past between → Quiet between after → WorkPath start past after
  | request {past between event after} : WorkPath start past between → Happens event between after →
      WorkPath start (past ++ [event]) after

theorem Quiet.refl (hub : Hub) : hub.Quiet hub where
  size := Nat.le_refl _
  queues := fun id _ => ⟨(hub.queues.get id).owners, rfl⟩
  begun := rfl
  clock := Nat.le_refl _

/-- What leaves queues, journal and clock alone is quiet. -/
theorem quiet_of_same {hub after : Hub} (queues : after.queues = hub.queues) (journal : after.journal = hub.journal)
    (clock : after.clock = hub.clock) : hub.Quiet after where
  size := Nat.le_of_eq (by rw [queues])
  queues := fun id _ => ⟨(hub.queues.get id).owners, by rw [queues]; rfl⟩
  begun := by rw [begun, begun, journal]
  clock := Nat.le_of_eq clock.symm

theorem begun_push (hub : Hub) (happening : Happening) : begun { hub with journal := hub.journal.push happening } =
    hub.begun ++ match happening with
      | .began item _ => [item]
      | _ => [] := by
  cases happening <;> simp [begun]

namespace WorkPath

theorem append {first second third : Hub} {past more : List WorkEvent} (path : WorkPath first past second)
    (next : WorkPath second more third) : WorkPath first (past ++ more) third := by
  induction next with
  | start => simpa using path
  | quiet _ quiet ih => exact ih.quiet quiet
  | request _ happens ih =>
    rw [← List.append_assoc]
    exact ih.request happens

theorem size_le {start after : Hub} {past : List WorkEvent} (path : WorkPath start past after) :
    start.queues.size ≤ after.queues.size := by
  induction path with
  | start => exact Nat.le_refl _
  | quiet _ quiet ih => exact Nat.le_trans ih quiet.size
  | request _ happens ih =>
    rw [happens.queues, Pool.size_set]
    exact ih

/-- The journal names exactly the runs of the history, in the same order. -/
theorem begun_eq {start after : Hub} {past : List WorkEvent} (path : WorkPath start past after) :
    after.begun = start.begun ++ past.flatMap WorkEvent.started := by
  induction path with
  | start => simp
  | quiet _ quiet ih => rw [quiet.begun, ih]
  | request _ happens ih => simp [happens.begun, ih]

end WorkPath

/-- The requests to one queue. -/
def requestsTo (id : QueueId) (past : List WorkEvent) : List WorkEvent :=
  past.filter fun event => event.queue = id

/-- The account of a queue since the beginning of a history. -/
def accountOf (queue : WorkQueue) (id : QueueId) (past : List WorkEvent) : Account :=
  (Account.opening queue).books ((requestsTo id past).map WorkEvent.request)

/-- A queue and its history agree with its account. -/
structure Accounted (start : WorkQueue) (id : QueueId) (past : List WorkEvent) (queue : WorkQueue) : Prop where
  queue : ∃ owners, queue = (accountOf start id past).queue.withOwners owners
  started : (accountOf start id past).started = (requestsTo id past).flatMap WorkEvent.started

theorem WorkPath.accounted {start after : Hub} {past : List WorkEvent} (path : WorkPath start past after)
    {id : QueueId} (known : id < start.queues.size) :
    Accounted (start.queues.get id) id past (after.queues.get id) := by
  induction path with
  | start => exact ⟨⟨_, rfl⟩, rfl⟩
  | quiet path quiet ih =>
    obtain ⟨owners, same⟩ := quiet.queues id (Nat.lt_of_lt_of_le known path.size_le)
    obtain ⟨before, held⟩ := ih.queue
    exact ⟨⟨owners, by rw [same, held]; rfl⟩, ih.started⟩
  | @request past between event after path happens ih =>
    obtain ⟨owners, held⟩ := ih.queue
    by_cases own : event.queue = id
    · have more : requestsTo id (past ++ [event]) = requestsTo id past ++ [event] := by simp [requestsTo, own]
      have booked : accountOf (start.queues.get id) id (past ++ [event]) =
          (accountOf (start.queues.get id) id past).book event.request := by
        rw [accountOf, more, List.map_append]
        exact Account.books_append _ _ _
      refine ⟨⟨owners, ?_⟩, ?_⟩
      · have there : id < between.queues.size := own ▸ happens.known
        rw [happens.queues, own, Pool.get_set_same there, held, WorkQueue.after_withOwners, booked]
        rfl
      · rw [booked, more, List.flatMap_append, ← ih.started]
        have ran := happens.started
        rw [own, held, WorkQueue.started_withOwners] at ran
        simp [Account.book, ran]
    · have same : requestsTo id (past ++ [event]) = requestsTo id past := by simp [requestsTo, own]
      refine ⟨⟨owners, ?_⟩, ?_⟩
      · rw [happens.queues, Pool.get_set_other (Ne.symm own), held, accountOf, accountOf, same]
      · rw [same, accountOf, same]
        exact ih.started

/-- The queues have only been asked in the ways there are. -/
def Worked (hub after : Hub) : Prop :=
  ∃ past, WorkPath hub past after

theorem passage_worked : Passage Worked where
  refl := fun _ => ⟨[], .start⟩
  trans := by
    rintro first second third ⟨past, path⟩ ⟨more, next⟩
    exact ⟨past ++ more, path.append next⟩

theorem Quiet.worked {hub after : Hub} (quiet : hub.Quiet after) : hub.Worked after :=
  ⟨[], .quiet .start quiet⟩

theorem Happens.worked {event : WorkEvent} {hub after : Hub} (happens : Happens event hub after) : hub.Worked after :=
  ⟨[event], .request .start happens⟩

theorem worked_of_same {hub after : Hub} (queues : after.queues = hub.queues) (journal : after.journal = hub.journal)
    (clock : after.clock = hub.clock) : hub.Worked after :=
  (quiet_of_same queues journal clock).worked

/-- Nothing that goes into the journal but the beginning of a run matters. -/
theorem worked_noted (hub : Hub) (happening : Happening) (other : ∀ item label, happening ≠ .began item label) :
    hub.Worked { hub with journal := hub.journal.push happening } := by
  refine Quiet.worked ⟨Nat.le_refl _, fun id _ => ⟨_, rfl⟩, ?_, Nat.le_refl _⟩
  rw [begun_push]
  cases happening with
  | began item label => exact absurd rfl (other item label)
  | _ => exact List.append_nil _

/-- Asking the queue of an item is one request, if somebody owns the queue. -/
theorem worked_askQueue {id : ItemId} {hub : Hub} {ask : WorkQueue → Bool × WorkQueue} (request : WorkRequest)
    (asks : ∀ queue, (ask queue).2 = queue.after request) (idle : ∀ queue : WorkQueue, queue.started request = [])
    (onTime : OnTime hub.clock request) : hub.Worked ((askQueue id ask).run hub).2 := by
  rw [run_askQueue]
  split
  · exact (Quiet.refl hub).worked
  · rename_i owned
    have happens : Happens ⟨(hub.items.get id).queue, request, []⟩ hub
        { hub with queues := hub.queues.set (hub.items.get id).queue (ask (hub.queueOf id)).2 } :=
      { known := known_of_owned owned
        onTime := onTime
        queues := by rw [asks]; rfl
        started := (idle _).symm
        begun := (List.append_nil _).symm
        clock := rfl }
    exact happens.worked

theorem worked_submit (id : ItemId) : Act.Keeps Worked (submit id) := by
  have logged (level : Level) (line : String) : Act.Keeps Worked (log level line) :=
    fun hub => worked_noted hub _ fun _ _ => nofun
  exact keeps_submit logged fun hub => worked_askQueue (.submit id) (fun _ => rfl) (fun _ => rfl) trivial

theorem worked_schedule (id : ItemId) (delay : Nat) : Act.Keeps Worked (schedule id delay) := by
  intro hub
  unfold schedule
  simp only [StateT.run_bind, StateT.run_get, pure_bind]
  exact worked_askQueue (.schedule id (hub.clock + delay)) (fun _ => rfl) (fun _ => rfl) (Nat.le_add_right _ _)

theorem worked_reschedule (id : ItemId) (delay : Nat) : Act.Keeps Worked (reschedule id delay) := by
  intro hub
  unfold reschedule
  simp only [StateT.run_bind, StateT.run_get, pure_bind]
  exact worked_askQueue (.reschedule id (hub.clock + delay)) (fun _ => rfl) (fun _ => rfl) (Nat.le_add_right _ _)

theorem worked_cancel (id : ItemId) : Act.Keeps Worked (cancel id) := by
  intro hub
  exact worked_askQueue (.cancel id) (fun _ => rfl) (fun _ => rfl) trivial

theorem frame_worked : Frame Worked where
  toPassage := passage_worked
  noted := fun hub happening plain => worked_noted hub happening fun item label began => by
    rw [began] at plain
    cases plain
  told := fun id happening changed => by
    refine passage_worked.told (fun hub => worked_noted hub happening fun item label began => ?_) worked_submit id
    rw [began] at changed
    cases changed
  filled := fun _ _ _ _ _ => worked_of_same rfl rfl rfl
  counted := fun _ _ _ _ _ => worked_of_same rfl rfl rfl
  flagged := fun _ _ _ => worked_of_same rfl rfl rfl
  lit := fun _ _ _ _ _ => worked_of_same rfl rfl rfl
  scheduled := fun hub _ _ cells delay _ => worked_schedule cells.scan delay hub
  pinned := fun _ _ => worked_of_same rfl rfl rfl
  bussed := fun _ _ => worked_of_same rfl rfl rfl
  stored := fun _ _ => worked_of_same rfl rfl rfl
  waited := fun _ _ => Quiet.worked ⟨Nat.le_refl _, fun _ _ => ⟨_, rfl⟩, rfl, Nat.le_max_left _ _⟩
  celled := fun _ _ _ _ => worked_of_same rfl rfl rfl
  eventCelled := fun _ _ _ => worked_of_same rfl rfl rfl
  subscribed := fun _ _ _ => worked_of_same rfl rfl rfl
  flagsMade := fun _ _ => worked_of_same rfl rfl rfl
  itemMade := fun _ _ => worked_of_same rfl rfl rfl
  rescheduled := worked_reschedule
  cancelled := worked_cancel
  contexted := fun _ _ _ => worked_of_same rfl rfl rfl
  retained := fun _ _ => worked_of_same rfl rfl rfl
  released := fun _ _ => worked_of_same rfl rfl rfl
  listed := fun _ _ _ => worked_of_same rfl rfl rfl
  catalogued := fun _ _ _ _ _ _ => worked_of_same rfl rfl rfl

theorem worked_shutdownQueue (id : QueueId) : Act.Keeps Worked (shutdownQueue id) := by
  intro hub
  rcases Nat.lt_or_ge id hub.queues.size with known | unknown
  · have happens : Happens ⟨id, .shutdown, []⟩ hub ((shutdownQueue id).run hub).2 :=
      ⟨known, trivial, rfl, rfl, (List.append_nil _).symm, rfl⟩
    exact happens.worked
  · exact worked_of_same (Pool.set_unknown unknown _) rfl rfl

theorem worked_newQueue : Act.Keeps Worked newQueue := by
  intro hub
  refine Quiet.worked ⟨?_, fun id known => ⟨(hub.queues.get id).owners, ?_⟩, rfl, Nat.le_refl _⟩
  · show hub.queues.size ≤ (hub.queues.add _).size
    rw [Pool.size_add]
    exact Nat.le_succ _
  · show (hub.queues.add _).get id = _
    rw [Pool.get_add_old known]
    rfl

theorem worked_setOwners (hub : Hub) (id : QueueId) (owners : Nat) :
    hub.Worked { hub with queues := hub.queues.set id ((hub.queues.get id).withOwners owners) } := by
  refine Quiet.worked ⟨?_, fun other known => ?_, rfl, Nat.le_refl _⟩
  · exact Nat.le_of_eq (Pool.size_set _ _ _).symm
  · rw [Pool.get_set]
    split
    · rename_i here
      exact ⟨owners, by rw [here.1]⟩
    · exact ⟨_, rfl⟩

theorem worked_retainQueue (id : QueueId) : Act.Keeps Worked (retainQueue id) := fun hub =>
  worked_setOwners hub id _

theorem worked_releaseQueue (id : QueueId) : Act.Keeps Worked (releaseQueue id) := fun hub =>
  worked_setOwners hub id _

/-- A turn is one request; what its handler does comes after it. -/
theorem worked_takeTurn (id : QueueId) : Act.Keeps Worked (takeTurn id) := by
  intro hub
  unfold takeTurn
  simp only [StateT.run_bind, StateT.run_get, pure_bind]
  rcases Nat.lt_or_ge id hub.queues.size with known | unknown
  · split
    · rename_i nothing
      have turned : (hub.queues.get id).turn hub.clock = (none, (hub.queues.get id).promoteDue hub.clock) := by
        simp only [WorkQueue.turn, nothing]
      have happens : Happens ⟨id, .turn hub.clock, []⟩ hub
          { hub with queues := hub.queues.set id ((hub.queues.get id).promoteDue hub.clock) } :=
        { known := known
          onTime := rfl
          queues := congrArg (fun pair => hub.queues.set id pair.2) turned.symm
          started := by rw [WorkQueue.started, turned]; rfl
          begun := (List.append_nil _).symm
          clock := rfl }
      exact happens.worked
    · rename_i item rest taken
      have turned : (hub.queues.get id).turn hub.clock = (some item, rest) := by
        simp only [WorkQueue.turn, taken]
      have happens : Happens ⟨id, .turn hub.clock, [item]⟩ hub
          { hub with
            queues := (hub.queues.set id ((hub.queues.get id).promoteDue hub.clock)).set id rest
            journal := hub.journal.push (.began item (hub.items.get item).label) } :=
        { known := known
          onTime := rfl
          queues := by rw [Pool.set_set]; exact congrArg (fun pair => hub.queues.set id pair.2) turned.symm
          started := by rw [WorkQueue.started, turned]; rfl
          begun := begun_push hub _
          clock := rfl }
      exact passage_worked.trans happens.worked (frame_worked.runHandler _ _)
  · have nobody : (hub.queues.get id).promoteDue hub.clock = default := by
      rw [Pool.get_unknown unknown, WorkQueue.promoteDue, WorkQueue.promoteFrom_eq]
      simp [WorkQueue.sift, default, instInhabitedWorkQueue.default]
    rw [nobody]
    exact worked_of_same (Pool.set_unknown unknown _) rfl rfl

end Hub

end LeafHub
