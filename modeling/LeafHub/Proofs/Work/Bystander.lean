import LeafHub.Proofs.Work.Orderly

namespace LeafHub.WorkQueue

/-- Nothing of what happened to the queue was about the item. -/
structure Spares (item : ItemId) (queue after : WorkQueue) : Prop where
  ready : item ∈ after.ready ↔ item ∈ queue.ready
  delayed : item ∈ after.delayed.map Prod.snd ↔ item ∈ queue.delayed.map Prod.snd
  closed : after.closed = queue.closed
  owners : after.owners = queue.owners

variable {item other : ItemId} {queue : WorkQueue}

theorem Spares.refl (item : ItemId) (queue : WorkQueue) : queue.Spares item queue :=
  ⟨Iff.rfl, Iff.rfl, rfl, rfl⟩

theorem Spares.trans {between after : WorkQueue} (first : queue.Spares item between)
    (second : between.Spares item after) : queue.Spares item after :=
  ⟨second.ready.trans first.ready, second.delayed.trans first.delayed, second.closed.trans first.closed,
    second.owners.trans first.owners⟩

theorem spares_enqueue (apart : item ≠ other) (queue : WorkQueue) : queue.Spares item (queue.enqueue other) :=
  ⟨by simp [enqueue, apart], Iff.rfl, rfl, rfl⟩

theorem spares_dropDelayed (apart : item ≠ other) (queue : WorkQueue) : queue.Spares item (queue.dropDelayed other) := by
  have kept (deadline : Nat) : (deadline, item) ∈ (queue.dropDelayed other).delayed ↔ (deadline, item) ∈ queue.delayed := by
    simp [dropDelayed, apart]
  exact ⟨Iff.rfl, by simp [kept], rfl, rfl⟩

theorem spares_delay (apart : item ≠ other) (queue : WorkQueue) (deadline : Nat) :
    queue.Spares item { queue with delayed := queue.delayed ++ [(deadline, other)] } :=
  ⟨Iff.rfl, by simp [apart], rfl, rfl⟩

theorem spares_submit (apart : item ≠ other) (queue : WorkQueue) : queue.Spares item (queue.submit other).2 := by
  unfold submit
  split
  · exact .refl item queue
  · exact spares_enqueue apart queue

theorem spares_schedule (apart : item ≠ other) (queue : WorkQueue) (deadline : Nat) :
    queue.Spares item (queue.schedule other deadline).2 := by
  unfold schedule
  split
  · exact .refl item queue
  · exact spares_delay apart queue deadline

theorem spares_reschedule (apart : item ≠ other) (queue : WorkQueue) (deadline : Nat) :
    queue.Spares item (queue.reschedule other deadline).2 := by
  unfold reschedule
  split
  · exact .refl item queue
  · exact (spares_dropDelayed apart queue).trans (spares_delay apart _ deadline)

theorem spares_cancel (apart : item ≠ other) (queue : WorkQueue) : queue.Spares item (queue.cancel other).2 := by
  have dropped := spares_dropDelayed apart queue
  unfold cancel
  dsimp only
  split
  · exact ⟨by simp [apart], dropped.delayed, dropped.closed, dropped.owners⟩
  · exact dropped

/-- A request that leaves all items but one alone. -/
structure AsksAbout (item : ItemId) (ask : WorkQueue → Bool × WorkQueue) : Prop where
  spares : ∀ {other}, other ≠ item → ∀ queue : WorkQueue, queue.Spares other (ask queue).2
  orderly : ∀ {queue : WorkQueue}, queue.Orderly → (ask queue).2.Orderly

theorem asksAbout_submit (item : ItemId) : AsksAbout item (·.submit item) :=
  ⟨spares_submit, fun orderly => orderly.submit item⟩

theorem asksAbout_schedule (item : ItemId) (deadline : Nat) : AsksAbout item (·.schedule item deadline) :=
  ⟨fun apart queue => spares_schedule apart queue deadline, fun orderly => orderly.schedule item deadline⟩

theorem asksAbout_reschedule (item : ItemId) (deadline : Nat) : AsksAbout item (·.reschedule item deadline) :=
  ⟨fun apart queue => spares_reschedule apart queue deadline, fun orderly => orderly.reschedule item deadline⟩

theorem asksAbout_cancel (item : ItemId) : AsksAbout item (·.cancel item) :=
  ⟨spares_cancel, fun orderly => orderly.cancel item⟩

/-- An item that is submitted to an open queue is pending, whether it was before or not. -/
theorem submit_self (opened : queue.closed = false) (item : ItemId) :
    (queue.submit item).2.isPending item = true ∧ (queue.submit item).2.delayed = queue.delayed ∧
      (queue.submit item).2.closed = queue.closed ∧ (queue.submit item).2.owners = queue.owners := by
  unfold submit
  split
  · rename_i refused
    rw [opened, Bool.false_or] at refused
    exact ⟨refused, rfl, rfl, rfl⟩
  · exact ⟨by simp [isPending, enqueue], rfl, rfl, rfl⟩

/-- An item that is scheduled in an open queue has a deadline, the new one or the one it had. -/
theorem schedule_self (opened : queue.closed = false) (item : ItemId) (deadline : Nat) :
    item ∈ (queue.schedule item deadline).2.delayed.map Prod.snd ∧
      (queue.schedule item deadline).2.closed = queue.closed ∧ (queue.schedule item deadline).2.owners = queue.owners := by
  unfold schedule
  split
  · rename_i refused
    rw [opened, Bool.false_or, isDelayed_iff] at refused
    exact ⟨refused, rfl, rfl⟩
  · exact ⟨by simp, rfl, rfl⟩

theorem reschedule_self (opened : queue.closed = false) (item : ItemId) (deadline : Nat) :
    item ∈ (queue.reschedule item deadline).2.delayed.map Prod.snd ∧
      (queue.reschedule item deadline).2.closed = queue.closed ∧
      (queue.reschedule item deadline).2.owners = queue.owners := by
  unfold reschedule
  rw [if_neg (by simp [opened])]
  exact ⟨by simp, rfl, rfl⟩

/-- An item that is cancelled is in neither list. -/
theorem cancel_self (orderly : queue.Orderly) (item : ItemId) :
    item ∉ (queue.cancel item).2.ready ∧ item ∉ (queue.cancel item).2.delayed.map Prod.snd ∧
      (queue.cancel item).2.closed = queue.closed ∧ (queue.cancel item).2.owners = queue.owners := by
  unfold cancel
  dsimp only
  split
  · exact ⟨by simp, by simp [dropDelayed, lower], rfl, rfl⟩
  · rename_i idle
    rw [orderly.pending_iff] at idle
    exact ⟨idle, by simp [dropDelayed], rfl, rfl⟩

theorem spares_foldl_promote {items : List ItemId} (absent : item ∉ items) (queue : WorkQueue) :
    queue.Spares item (items.foldl promote queue) := by
  induction items generalizing queue with
  | nil => exact .refl item queue
  | cons first rest ih =>
    rw [List.mem_cons, not_or] at absent
    obtain ⟨apart, later⟩ := absent
    have promoted : queue.Spares item (queue.promote first) := by
      unfold promote
      split
      · exact .refl item queue
      · exact spares_enqueue apart queue
    exact promoted.trans (ih later _)

/-- An item without a deadline does not come due. -/
theorem spares_promoteDue (undelayed : item ∉ queue.delayed.map Prod.snd) (now : Nat) :
    queue.Spares item (queue.promoteDue now) := by
  obtain ⟨due, stay⟩ := sift_perm now queue.delayed
  have absent {entries : List (Nat × ItemId)} {p : Nat × ItemId → Bool} (some : entries.Perm (queue.delayed.filter p)) :
      item ∉ entries.map Prod.snd := by
    rw [(some.map Prod.snd).mem_iff]
    exact fun member => undelayed ((List.filter_sublist.map Prod.snd).subset member)
  have promoted := spares_foldl_promote (absent due) queue
  rw [promoteDue, promoteFrom_eq]
  refine ⟨promoted.ready, ?_, promoted.closed, promoted.owners⟩
  simp only [List.nil_append, absent stay, undelayed]

/-- A turn that starts another item, or none. -/
theorem spares_turn (undelayed : item ∉ queue.delayed.map Prod.snd) {now : Nat}
    (other : (queue.turn now).1 ≠ some item) : queue.Spares item (queue.turn now).2 := by
  have promoted := spares_promoteDue undelayed now
  obtain ⟨_, ran⟩ | ⟨first, rest, front, ran⟩ := queue.turn_cases now
  · rw [ran]
    exact promoted
  · rw [ran] at other ⊢
    have apart : item ≠ first := fun same => other (congrArg some same.symm)
    have ready := promoted.ready
    rw [front, List.mem_cons] at ready
    exact ⟨by simpa [apart] using ready, promoted.delayed, promoted.closed, promoted.owners⟩

/-- Only an item that was ready is started. -/
theorem mem_ready_of_turn (undelayed : item ∉ queue.delayed.map Prod.snd) {now : Nat}
    (starts : (queue.turn now).1 = some item) : item ∈ queue.ready := by
  have promoted := spares_promoteDue undelayed now
  obtain ⟨_, ran⟩ | ⟨first, rest, front, ran⟩ := queue.turn_cases now
  · rw [ran] at starts
    cases starts
  · rw [ran] at starts
    cases starts
    rw [← promoted.ready, front]
    exact List.mem_cons_self

/-- A turn that starts an item takes it out, and does nothing else about it. -/
theorem turn_of_starts (orderly : queue.Orderly) (undelayed : item ∉ queue.delayed.map Prod.snd) {now : Nat}
    (starts : (queue.turn now).1 = some item) :
    item ∉ (queue.turn now).2.ready ∧ item ∉ (queue.turn now).2.delayed.map Prod.snd ∧
      (queue.turn now).2.closed = queue.closed ∧ (queue.turn now).2.owners = queue.owners := by
  have promoted := spares_promoteDue undelayed now
  obtain ⟨_, ran⟩ | ⟨first, rest, front, ran⟩ := queue.turn_cases now
  · rw [ran] at starts
    cases starts
  · rw [ran] at starts
    cases starts
    rw [ran, (orderly.promoteDue now).rest_eq front]
    exact ⟨by simp, fun member => undelayed (promoted.delayed.mp member), promoted.closed, promoted.owners⟩

/-- A turn that starts nothing leaves nothing ready. -/
theorem ready_of_turn_none {now : Nat} (starts : (queue.turn now).1 = none) : (queue.turn now).2.ready = [] := by
  obtain ⟨empty, ran⟩ | ⟨_, _, _, ran⟩ := queue.turn_cases now
  · rw [ran]
    exact empty
  · rw [ran] at starts
    cases starts

/-- An item that is in neither list is not started, and a turn does not bring it there. -/
theorem absent_turn (unready : item ∉ queue.ready) (undelayed : item ∉ queue.delayed.map Prod.snd) (now : Nat) :
    (queue.turn now).1 ≠ some item ∧ item ∉ (queue.turn now).2.ready ∧ item ∉ (queue.turn now).2.delayed.map Prod.snd := by
  have other : (queue.turn now).1 ≠ some item := fun starts => unready (mem_ready_of_turn undelayed starts)
  have spares := spares_turn undelayed other
  exact ⟨other, mt spares.ready.mp unready, mt spares.delayed.mp undelayed⟩

/-- The item waits as it did before. One that had a deadline may be ready instead. -/
structure Bides (item : ItemId) (queue after : WorkQueue) : Prop where
  orderly : after.Orderly
  ready : item ∈ queue.ready → item ∈ after.ready
  waits : item ∈ after.ready ∨ item ∈ after.delayed.map Prod.snd ↔ item ∈ queue.ready ∨ item ∈ queue.delayed.map Prod.snd
  closed : after.closed = queue.closed
  owners : after.owners = queue.owners

theorem Spares.bides {after : WorkQueue} (spares : queue.Spares item after) (orderly : after.Orderly) :
    queue.Bides item after :=
  ⟨orderly, spares.ready.mpr, or_congr spares.ready spares.delayed, spares.closed, spares.owners⟩

namespace Orderly

variable (orderly : queue.Orderly)

include orderly

theorem bides_promoteDue (item : ItemId) (now : Nat) : queue.Bides item (queue.promoteDue now) := by
  have promoted := orderly.promoteDue now
  have joins : item ∈ queue.joining now ↔ _ := orderly.mem_joining_iff
  have stays : item ∈ (sift now queue.delayed).2.map Prod.snd ↔ ∃ deadline, now < deadline ∧ (deadline, item) ∈ queue.delayed := by
    rw [((sift_perm now queue.delayed).2.map Prod.snd).mem_iff]
    simp [and_comm]
  rw [orderly.promoteDue_eq] at promoted ⊢
  refine ⟨promoted, fun member => List.mem_append_left _ member, ?_, rfl, rfl⟩
  show item ∈ queue.ready ++ queue.joining now ∨ item ∈ (sift now queue.delayed).2.map Prod.snd ↔ _
  rw [List.mem_append, joins, stays, List.mem_map]
  constructor
  · rintro ((member | ⟨⟨deadline, _, member⟩, _⟩) | ⟨deadline, _, member⟩)
    · exact .inl member
    · exact .inr ⟨_, member, rfl⟩
    · exact .inr ⟨_, member, rfl⟩
  · rintro (member | ⟨⟨deadline, other⟩, member, same⟩)
    · exact .inl (.inl member)
    · obtain rfl : other = item := same
      by_cases ready : other ∈ queue.ready
      · exact .inl (.inl ready)
      · rcases Nat.lt_or_ge now deadline with early | due
        · exact .inr ⟨deadline, early, member⟩
        · exact .inl (.inr ⟨⟨deadline, due, member⟩, ready⟩)

/-- A turn that starts another item, or none, also if the item has a deadline. -/
theorem bides_turn {now : Nat} (other : (queue.turn now).1 ≠ some item) : queue.Bides item (queue.turn now).2 := by
  have promoted := orderly.bides_promoteDue item now
  have later := orderly.turn now
  obtain ⟨_, ran⟩ | ⟨first, rest, front, ran⟩ := queue.turn_cases now
  · rw [ran]
    exact promoted
  · rw [ran] at other
    rw [ran, promoted.orderly.rest_eq front] at later ⊢
    have apart : item ≠ first := fun same => other (congrArg some same.symm)
    have spares : (queue.promoteDue now).Spares item
        { (queue.promoteDue now).lower first with ready := (queue.promoteDue now).ready.filter (· ≠ first) } :=
      ⟨by simp [apart], Iff.rfl, rfl, rfl⟩
    have bides := spares.bides later
    exact ⟨later, bides.ready ∘ promoted.ready, bides.waits.trans promoted.waits, promoted.closed, promoted.owners⟩

/-- What a turn starts was waiting, and the queue stays open and owned. -/
theorem waits_of_starts {now : Nat} (starts : (queue.turn now).1 = some item) :
    (item ∈ queue.ready ∨ item ∈ queue.delayed.map Prod.snd) ∧ (queue.turn now).2.closed = queue.closed ∧
      (queue.turn now).2.owners = queue.owners := by
  have promoted := orderly.bides_promoteDue item now
  obtain ⟨_, ran⟩ | ⟨first, rest, front, ran⟩ := queue.turn_cases now
  · rw [ran] at starts
    cases starts
  · rw [ran] at starts
    cases starts
    rw [ran]
    exact ⟨promoted.waits.mp (.inl (front ▸ List.mem_cons_self)), promoted.closed, promoted.owners⟩

end Orderly

end LeafHub.WorkQueue
