import LeafHub.WorkQueue
import Mathlib.Data.List.Nodup
import Mathlib.Data.List.Perm.Basic

namespace LeafHub

/-- What is asked of a queue. A turn takes the first ready item out, if there is one, and starts its run. -/
inductive WorkRequest where
  | submit (item : ItemId)
  | schedule (item : ItemId) (deadline : Nat)
  | reschedule (item : ItemId) (deadline : Nat)
  | cancel (item : ItemId)
  | turn (now : Nat)
  | shutdown
  deriving DecidableEq

namespace WorkQueue

/-- The waiting entries that are due and the ones that stay, each in the order in which a look through them leaves
them. -/
def sift (now : Nat) : List (Nat × ItemId) → List (Nat × ItemId) × List (Nat × ItemId)
  | [] => ([], [])
  | entry :: rest =>
    if entry.1 ≤ now then (entry :: (sift now (lastFirst rest)).1, (sift now (lastFirst rest)).2)
    else ((sift now rest).1, entry :: (sift now rest).2)
termination_by waiting => waiting.length
decreasing_by
  all_goals simp [length_lastFirst]

/-- The items that join the ready ones at that time: those that are due and not pending. -/
def joining (queue : WorkQueue) (now : Nat) : List ItemId :=
  ((sift now queue.delayed).1.map Prod.snd).filter fun item => !queue.isPending item

/-- What a turn starts, and the queue afterwards. -/
def turn (queue : WorkQueue) (now : Nat) : Option ItemId × WorkQueue :=
  match (queue.promoteDue now).takeReady? with
  | none => (none, queue.promoteDue now)
  | some (item, rest) => (some item, rest)

/-- The queue after a request. -/
def after (queue : WorkQueue) : WorkRequest → WorkQueue
  | .submit item => (queue.submit item).2
  | .schedule item deadline => (queue.schedule item deadline).2
  | .reschedule item deadline => (queue.reschedule item deadline).2
  | .cancel item => (queue.cancel item).2
  | .turn now => (queue.turn now).2
  | .shutdown => queue.shutdown

/-- The items that a request puts at the end of the ready ones, in order. -/
def enqueued (queue : WorkQueue) : WorkRequest → List ItemId
  | .submit item => if (queue.submit item).1 then [item] else []
  | .turn now => queue.joining now
  | _ => []

/-- The run that a request starts. -/
def started (queue : WorkQueue) : WorkRequest → List ItemId
  | .turn now => (queue.turn now).1.toList
  | _ => []

/-- Everything that requests put at the end of the ready items, in order. -/
def enqueues (queue : WorkQueue) : List WorkRequest → List ItemId
  | [] => []
  | request :: rest => queue.enqueued request ++ (queue.after request).enqueues rest

/-- Once what is due has joined, a turn takes out the first ready item and lowers its flag, if there is one. -/
theorem turn_cases (queue : WorkQueue) (now : Nat) :
    ((queue.promoteDue now).ready = [] ∧ queue.turn now = (none, queue.promoteDue now)) ∨
      ∃ item rest, (queue.promoteDue now).ready = item :: rest ∧
        queue.turn now = (some item, { (queue.promoteDue now).lower item with ready := rest }) := by
  unfold turn takeReady?
  cases front : (queue.promoteDue now).ready with
  | nil => exact .inl ⟨rfl, rfl⟩
  | cons item rest => exact .inr ⟨item, rest, rfl, rfl⟩

/-- Flags and lists are in step, and a closed queue is empty. -/
structure Orderly (queue : WorkQueue) : Prop where
  pending_iff : ∀ item, queue.isPending item = true ↔ item ∈ queue.ready
  ready : queue.ready.Nodup
  delayed : (queue.delayed.map Prod.snd).Nodup
  empty : queue.closed = true → queue.ready = [] ∧ queue.delayed = []

theorem orderly_fresh : fresh.Orderly where
  pending_iff := by simp [fresh, isPending]
  ready := List.nodup_nil
  delayed := List.nodup_nil
  empty := fun _ => ⟨rfl, rfl⟩

theorem isDelayed_iff {queue : WorkQueue} {item : ItemId} :
    queue.isDelayed item = true ↔ item ∈ queue.delayed.map Prod.snd := by
  simp [isDelayed]

theorem lastFirst_perm {α : Type} (xs : List α) : (lastFirst xs).Perm xs := by
  cases xs with
  | nil => exact .nil
  | cons x rest =>
    have whole := List.dropLast_append_getLast (List.cons_ne_nil x rest)
    have turned : (lastFirst (x :: rest)).Perm
        ((x :: rest).dropLast ++ [(x :: rest).getLast (List.cons_ne_nil x rest)]) :=
      (List.perm_append_singleton _ _).symm
    exact turned.trans (.of_eq whole)

theorem sift_perm (now : Nat) (waiting : List (Nat × ItemId)) :
    (sift now waiting).1.Perm (waiting.filter fun entry => entry.1 ≤ now) ∧
      (sift now waiting).2.Perm (waiting.filter fun entry => ¬entry.1 ≤ now) := by
  induction waiting using sift.induct now with
  | case1 => simp [sift]
  | case2 entry rest due ih =>
    obtain ⟨first, second⟩ := ih
    have same := lastFirst_perm rest
    simp only [sift, if_pos due]
    rw [List.filter_cons_of_pos (by simpa using due), List.filter_cons_of_neg (by simpa using due)]
    exact ⟨(first.trans (same.filter _)).cons entry, second.trans (same.filter _)⟩
  | case3 entry rest early ih =>
    obtain ⟨first, second⟩ := ih
    simp only [sift, if_neg early]
    rw [List.filter_cons_of_neg (by simpa using early), List.filter_cons_of_pos (by simpa using early)]
    exact ⟨first, second.cons entry⟩

/-- Raises the flags of items that are not pending and puts them at the end of the ready ones. -/
def enqueueAll (queue : WorkQueue) (items : List ItemId) : WorkQueue :=
  { queue with ready := queue.ready ++ items, raised := items.reverse ++ queue.raised }

theorem isPending_enqueueAll (queue : WorkQueue) (items : List ItemId) (item : ItemId) :
    (queue.enqueueAll items).isPending item = (items.contains item || queue.isPending item) := by
  simp [enqueueAll, isPending]

theorem enqueue_eq (queue : WorkQueue) (item : ItemId) : queue.enqueue item = queue.enqueueAll [item] := rfl

theorem foldl_promote (queue : WorkQueue) {items : List ItemId} (distinct : items.Nodup) :
    items.foldl promote queue = queue.enqueueAll (items.filter fun item => !queue.isPending item) := by
  induction items generalizing queue with
  | nil => simp [enqueueAll]
  | cons item rest ih =>
    obtain ⟨fresh, distinct⟩ := List.nodup_cons.mp distinct
    rw [List.foldl_cons, ih _ distinct]
    cases pending : queue.isPending item with
    | true => simp [promote, pending]
    | false =>
      have joined : queue.promote item = queue.enqueueAll [item] := by
        simp [promote, pending, enqueue_eq]
      have others : (rest.filter fun other => !(queue.enqueueAll [item]).isPending other) =
          rest.filter fun other => !queue.isPending other := by
        refine List.filter_congr fun other member => ?_
        have apart : other ≠ item := fun same => fresh (same ▸ member)
        simp [isPending_enqueueAll, apart]
      rw [joined, others, List.filter_cons_of_pos (by simp [pending])]
      simp [enqueueAll]

theorem promoteFrom_eq (now : Nat) (kept : List (Nat × ItemId)) (queue : WorkQueue) (waiting : List (Nat × ItemId)) :
    promoteFrom now kept queue waiting =
      { ((sift now waiting).1.map Prod.snd).foldl promote queue with delayed := kept ++ (sift now waiting).2 } := by
  induction waiting using sift.induct now generalizing kept queue with
  | case1 => simp [promoteFrom, sift]
  | case2 entry rest due ih => simp [promoteFrom, sift, due, ih]
  | case3 entry rest early ih => simp [promoteFrom, sift, early, ih]

section Joining

variable {queue : WorkQueue} {now : Nat} {item : ItemId}

theorem mem_joining_iff : item ∈ queue.joining now ↔
    (∃ deadline ≤ now, (deadline, item) ∈ queue.delayed) ∧ queue.isPending item = false := by
  have due : item ∈ (sift now queue.delayed).1.map Prod.snd ↔ ∃ deadline ≤ now, (deadline, item) ∈ queue.delayed := by
    rw [((sift_perm now queue.delayed).1.map Prod.snd).mem_iff]
    simp [and_comm]
  rw [joining, List.mem_filter, due, Bool.not_eq_true']

variable (distinct : (queue.delayed.map Prod.snd).Nodup) (now)

include distinct

theorem nodup_due : ((sift now queue.delayed).1.map Prod.snd).Nodup := by
  refine ((sift_perm now queue.delayed).1.map Prod.snd).nodup_iff.mpr ?_
  exact distinct.sublist (List.filter_sublist.map _)

theorem nodup_staying : ((sift now queue.delayed).2.map Prod.snd).Nodup := by
  refine ((sift_perm now queue.delayed).2.map Prod.snd).nodup_iff.mpr ?_
  exact distinct.sublist (List.filter_sublist.map _)

theorem nodup_joining : (queue.joining now).Nodup :=
  (nodup_due now distinct).filter _

/-- What came due joins the ready items in the order of the look through the waiting ones. -/
theorem promoteDue_eq : queue.promoteDue now =
    { queue.enqueueAll (queue.joining now) with delayed := (sift now queue.delayed).2 } := by
  rw [promoteDue, promoteFrom_eq, foldl_promote _ (nodup_due now distinct)]
  simp [joining]

end Joining

theorem Orderly.mem_joining_iff {queue : WorkQueue} (orderly : queue.Orderly) {now : Nat} {item : ItemId} :
    item ∈ queue.joining now ↔ (∃ deadline ≤ now, (deadline, item) ∈ queue.delayed) ∧ item ∉ queue.ready := by
  rw [WorkQueue.mem_joining_iff, ← Bool.not_eq_true, orderly.pending_iff]

theorem Orderly.nodup_joining {queue : WorkQueue} (orderly : queue.Orderly) (now : Nat) : (queue.joining now).Nodup :=
  WorkQueue.nodup_joining now orderly.delayed

theorem Orderly.promoteDue_eq {queue : WorkQueue} (orderly : queue.Orderly) (now : Nat) :
    queue.promoteDue now =
      { queue.enqueueAll (queue.joining now) with delayed := (sift now queue.delayed).2 } :=
  WorkQueue.promoteDue_eq now orderly.delayed

namespace Orderly

variable {queue : WorkQueue} (orderly : queue.Orderly)

include orderly

theorem idle_of_not_mem {item : ItemId} (absent : item ∉ queue.ready) : queue.isPending item = false := by
  rw [← Bool.not_eq_true, orderly.pending_iff]
  exact absent

theorem enqueueAll {items : List ItemId} (opened : queue.closed = false) (distinct : items.Nodup)
    (idle : ∀ item ∈ items, queue.isPending item = false) : (queue.enqueueAll items).Orderly where
  pending_iff := fun item => by
    have before := orderly.pending_iff item
    rw [isPending_enqueueAll, Bool.or_eq_true, before]
    simp [WorkQueue.enqueueAll, or_comm]
  ready := by
    refine List.nodup_append.mpr ⟨orderly.ready, distinct, fun one held other member same => ?_⟩
    have pending := (orderly.pending_iff one).mpr held
    rw [same, idle other member] at pending
    cases pending
  delayed := orderly.delayed
  empty := fun closed => by
    rw [show queue.closed = true from closed] at opened
    cases opened

theorem submit (item : ItemId) : (queue.submit item).2.Orderly := by
  unfold WorkQueue.submit
  split
  · exact orderly
  · rename_i free
    obtain ⟨opened, idle⟩ : queue.closed = false ∧ queue.isPending item = false := by simpa using free
    exact orderly.enqueueAll opened (List.nodup_singleton item) fun other member => by simp_all

/-- Another list of waiting items will do as well. -/
theorem redelay {waiting : List (Nat × ItemId)} (distinct : (waiting.map Prod.snd).Nodup)
    (opened : queue.closed = true → waiting = []) : Orderly { queue with delayed := waiting } where
  pending_iff := orderly.pending_iff
  ready := orderly.ready
  delayed := distinct
  empty := fun closed => ⟨(orderly.empty closed).1, opened closed⟩

theorem dropDelayed (item : ItemId) : (queue.dropDelayed item).Orderly := by
  refine orderly.redelay (orderly.delayed.sublist (List.filter_sublist.map _)) fun closed => ?_
  simp [(orderly.empty closed).2]

theorem delay {item : ItemId} (opened : queue.closed = false) (absent : item ∉ queue.delayed.map Prod.snd)
    (deadline : Nat) : Orderly { queue with delayed := queue.delayed ++ [(deadline, item)] } := by
  refine orderly.redelay ?_ fun closed => ?_
  · rw [List.map_append]
    refine List.nodup_append.mpr ⟨orderly.delayed, List.nodup_singleton item, fun one held other member same => ?_⟩
    exact absent (by simp_all)
  · rw [closed] at opened
    cases opened

theorem schedule (item : ItemId) (deadline : Nat) : (queue.schedule item deadline).2.Orderly := by
  unfold WorkQueue.schedule
  split
  · exact orderly
  · rename_i free
    obtain ⟨opened, absent⟩ : queue.closed = false ∧ queue.isDelayed item = false := by simpa using free
    refine orderly.delay opened (fun member => ?_) deadline
    rw [isDelayed_iff.mpr member] at absent
    cases absent

theorem reschedule (item : ItemId) (deadline : Nat) : (queue.reschedule item deadline).2.Orderly := by
  unfold WorkQueue.reschedule
  split
  · exact orderly
  · rename_i opened
    have absent : item ∉ (queue.dropDelayed item).delayed.map Prod.snd := by simp [WorkQueue.dropDelayed]
    exact (orderly.dropDelayed item).delay (Bool.not_eq_true _ ▸ opened) absent deadline

theorem lower (item : ItemId) : Orderly { queue.lower item with ready := queue.ready.filter (· ≠ item) } where
  pending_iff := fun other => by
    have before := orderly.pending_iff other
    simp only [isPending, List.contains_eq_mem, decide_eq_true_eq] at before
    simp [isPending, WorkQueue.lower, before]
  ready := orderly.ready.filter _
  delayed := orderly.delayed
  empty := fun closed => by
    obtain ⟨ready, delayed⟩ := orderly.empty closed
    exact ⟨by simp [ready], delayed⟩

theorem cancel (item : ItemId) : (queue.cancel item).2.Orderly := by
  unfold WorkQueue.cancel
  dsimp only
  split
  · exact (orderly.dropDelayed item).lower item
  · exact orderly.dropDelayed item

theorem promoteDue (now : Nat) : (queue.promoteDue now).Orderly := by
  rw [orderly.promoteDue_eq]
  cases closed : queue.closed with
  | true =>
    obtain ⟨ready, delayed⟩ := orderly.empty closed
    have nothing : queue.joining now = [] := by simp [joining, delayed, sift]
    have unchanged : queue.enqueueAll [] = queue := by simp [WorkQueue.enqueueAll]
    rw [nothing, unchanged]
    exact orderly.redelay (by simp [delayed, sift]) fun _ => by simp [delayed, sift]
  | false =>
    have idle : ∀ item ∈ queue.joining now, queue.isPending item = false := fun item member => by
      simpa using (List.mem_filter.mp member).2
    refine (orderly.enqueueAll closed (orderly.nodup_joining now) idle).redelay ?_ fun shut => ?_
    · exact nodup_staying now orderly.delayed
    · rw [show queue.closed = true from shut] at closed
      cases closed

/-- Behind the first ready item are all the others. -/
theorem rest_eq {item : ItemId} {rest : List ItemId} (front : queue.ready = item :: rest) :
    rest = queue.ready.filter (· ≠ item) := by
  have distinct := orderly.ready
  rw [front] at distinct
  have absent := (List.nodup_cons.mp distinct).1
  rw [front, List.filter_cons_of_neg (by simp), eq_comm, List.filter_eq_self]
  intro other member
  have apart : other ≠ item := fun same => absent (same ▸ member)
  simpa using apart

theorem turn (now : Nat) : (queue.turn now).2.Orderly := by
  have promoted := orderly.promoteDue now
  obtain ⟨_, ran⟩ | ⟨item, rest, front, ran⟩ := queue.turn_cases now
  · rw [ran]
    exact promoted
  · rw [ran, promoted.rest_eq front]
    exact promoted.lower item

theorem shutdown : queue.shutdown.Orderly where
  pending_iff := fun item => by
    have before := orderly.pending_iff item
    simp only [isPending, List.contains_eq_mem, decide_eq_true_eq] at before
    simp [isPending, WorkQueue.shutdown, before]
  ready := List.nodup_nil
  delayed := List.nodup_nil
  empty := fun _ => ⟨rfl, rfl⟩

theorem after (request : WorkRequest) : (queue.after request).Orderly := by
  cases request with
  | submit item => exact orderly.submit item
  | schedule item deadline => exact orderly.schedule item deadline
  | reschedule item deadline => exact orderly.reschedule item deadline
  | cancel item => exact orderly.cancel item
  | turn now => exact orderly.turn now
  | shutdown => exact orderly.shutdown

/-- A closed queue starts nothing. -/
theorem started_eq_nil (closed : queue.closed = true) (request : WorkRequest) : queue.started request = [] := by
  cases request with
  | turn now =>
    obtain ⟨ready, delayed⟩ := orderly.empty closed
    have nothing : (queue.promoteDue now).ready = [] := by
      rw [orderly.promoteDue_eq]
      simp [WorkQueue.enqueueAll, joining, ready, delayed, sift]
    show (queue.turn now).1.toList = []
    obtain ⟨_, ran⟩ | ⟨item, rest, front, _⟩ := queue.turn_cases now
    · rw [ran]
      rfl
    · rw [nothing] at front
      cases front
  | _ => rfl

/-- Once closed, a queue stays closed. -/
theorem closed_after (closed : queue.closed = true) (request : WorkRequest) : (queue.after request).closed = true := by
  cases request with
  | submit item => simp [WorkQueue.after, WorkQueue.submit, closed]
  | schedule item deadline => simp [WorkQueue.after, WorkQueue.schedule, closed]
  | reschedule item deadline => simp [WorkQueue.after, WorkQueue.reschedule, closed]
  | cancel item =>
    show (queue.cancel item).2.closed = true
    unfold WorkQueue.cancel
    dsimp only
    split <;> exact closed
  | turn now =>
    have promoted : (queue.promoteDue now).closed = true := by
      rw [orderly.promoteDue_eq]
      exact closed
    show (queue.turn now).2.closed = true
    obtain ⟨_, ran⟩ | ⟨_, _, _, ran⟩ := queue.turn_cases now
    · rw [ran]
      exact promoted
    · rw [ran]
      exact promoted
  | shutdown => rfl

end Orderly

/-- A cancel is granted exactly if the item was ready or had a deadline, and it is neither afterwards. -/
theorem cancel_iff (queue : WorkQueue) (item : ItemId) :
    ((queue.cancel item).1 = true ↔ queue.isPending item = true ∨ queue.isDelayed item = true) ∧
      (queue.cancel item).2.isPending item = false ∧ (queue.cancel item).2.isDelayed item = false := by
  have undelayed (queue : WorkQueue) : (queue.dropDelayed item).isDelayed item = false := by
    simp [isDelayed, WorkQueue.dropDelayed]
  unfold WorkQueue.cancel
  dsimp only
  split
  · rename_i pending
    refine ⟨by simp [pending], ?_, undelayed queue⟩
    simp [isPending, WorkQueue.lower]
  · rename_i idle
    exact ⟨by simp [idle], Bool.not_eq_true _ ▸ idle, undelayed queue⟩

/-- A closed queue takes nothing. -/
theorem refused_of_closed {queue : WorkQueue} (closed : queue.closed = true) (item : ItemId) (deadline : Nat) :
    (queue.submit item).1 = false ∧ (queue.schedule item deadline).1 = false ∧
      (queue.reschedule item deadline).1 = false := by
  simp [WorkQueue.submit, WorkQueue.schedule, WorkQueue.reschedule, closed]

section Owners

variable (queue : WorkQueue) (owners : Nat)

/-- Owners come and go without anything else about the queue changing. -/
def withOwners : WorkQueue :=
  { queue with owners }

theorem promoteFrom_withOwners (now : Nat) (kept waiting : List (Nat × ItemId)) :
    promoteFrom now kept (queue.withOwners owners) waiting = (promoteFrom now kept queue waiting).withOwners owners := by
  have promoted (items : List ItemId) : ∀ queue : WorkQueue,
      items.foldl promote (queue.withOwners owners) = (items.foldl promote queue).withOwners owners := by
    induction items with
    | nil => exact fun _ => rfl
    | cons item rest ih =>
      intro queue
      rw [List.foldl_cons, List.foldl_cons, ← ih]
      congr 1
      unfold promote
      split <;> rename_i pending
      · exact (if_pos pending).symm ▸ rfl
      · exact (if_neg pending).symm ▸ rfl
  rw [promoteFrom_eq, promoteFrom_eq, promoted]
  rfl

theorem turn_withOwners (now : Nat) : (queue.withOwners owners).turn now =
    ((queue.turn now).1, (queue.turn now).2.withOwners owners) := by
  have promoted : (queue.withOwners owners).promoteDue now = (queue.promoteDue now).withOwners owners :=
    promoteFrom_withOwners queue owners now [] queue.delayed
  have taken : ((queue.promoteDue now).withOwners owners).takeReady? =
      (queue.promoteDue now).takeReady?.map fun pair => (pair.1, pair.2.withOwners owners) := by
    unfold takeReady? withOwners
    dsimp only
    split <;> rfl
  unfold turn
  rw [promoted, taken]
  cases (queue.promoteDue now).takeReady? <;> rfl

theorem after_withOwners (request : WorkRequest) :
    (queue.withOwners owners).after request = (queue.after request).withOwners owners := by
  cases request with
  | submit item =>
    show (if queue.closed || queue.isPending item then _ else _ : Bool × WorkQueue).2 =
      (queue.submit item).2.withOwners _
    unfold submit
    split <;> rfl
  | schedule item deadline =>
    show (if queue.closed || queue.isDelayed item then _ else _ : Bool × WorkQueue).2 =
      (queue.schedule item _).2.withOwners _
    unfold schedule
    split <;> rfl
  | reschedule item deadline =>
    show (if queue.closed then _ else _ : Bool × WorkQueue).2 = (queue.reschedule item _).2.withOwners _
    unfold reschedule
    split <;> rfl
  | cancel item =>
    show (if queue.isPending item then _ else _ : Bool × WorkQueue).2 = (queue.cancel item).2.withOwners _
    unfold cancel
    dsimp only
    split <;> rfl
  | turn now => exact congrArg Prod.snd (turn_withOwners queue owners now)
  | shutdown => rfl

theorem started_withOwners (request : WorkRequest) :
    (queue.withOwners owners).started request = queue.started request := by
  cases request with
  | turn now => exact congrArg (fun pair => pair.1.toList) (turn_withOwners queue owners now)
  | _ => rfl

end Owners

end WorkQueue

end LeafHub
