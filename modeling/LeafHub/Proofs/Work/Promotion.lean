import LeafHub.Proofs.Work.Orderly
import Mathlib.Data.List.Induction

namespace LeafHub.WorkQueue

/-- The list without the element at a place, which the last element takes. -/
def swapRemove {α : Type} (xs : List α) (place : Nat) : List α :=
  match xs.getLast? with
  | some last => (xs.set place last).dropLast
  | none => []

theorem lastFirst_concat {α : Type} (init : List α) (last : α) : lastFirst (init ++ [last]) = last :: init := by
  have final : (init ++ [last]).dropLast = init := List.dropLast_concat
  cases init with
  | nil => rfl
  | cons x rest =>
    rw [List.cons_append] at final ⊢
    rw [lastFirst, final]
    congr 1
    exact List.getLast_append_singleton (x :: rest)

theorem swapRemove_middle {α : Type} (front : List α) (x : α) (rest : List α) :
    swapRemove (front ++ x :: rest) front.length = front ++ lastFirst rest := by
  rcases List.eq_nil_or_concat rest with rfl | ⟨init, last, rfl⟩
  · simp [swapRemove, lastFirst]
  · have whole : front ++ x :: init.concat last = front ++ x :: init ++ [last] := by simp
    have set : (front ++ x :: init ++ [last]).set front.length last = front ++ last :: init ++ [last] := by simp
    rw [swapRemove, whole, List.getLast?_concat]
    simp only [set, List.dropLast_concat, List.concat_eq_append, lastFirst_concat]

/-- A look through the waiting items that has come to a place. -/
structure Look where
  place : Nat
  queue : WorkQueue

/-- One more round, if there is an item at the place. -/
def Look.next? (now : Nat) (look : Look) : Option Look :=
  match look.queue.delayed[look.place]? with
  | none => none
  | some entry =>
    if entry.1 ≤ now then
      let left := { look.queue with delayed := swapRemove look.queue.delayed look.place }
      some { look with queue := left.promote entry.2 }
    else some { look with place := look.place + 1 }

/-- After so many rounds there is nothing left to look at. -/
inductive Look.Ends (now : Nat) : Nat → Look → Look → Prop
  | done {look} : look.next? now = none → Ends now 0 look look
  | more {look next last rounds} : look.next? now = some next → Ends now rounds next last → Ends now (rounds + 1) look last

theorem promote_delayed (queue : WorkQueue) (waiting : List (Nat × ItemId)) (item : ItemId) :
    promote { queue with delayed := waiting } item = { queue.promote item with delayed := waiting } := by
  unfold promote
  split <;> rename_i pending
  · exact (if_pos pending).symm ▸ rfl
  · exact (if_neg pending).symm ▸ rfl

/-- The look ends with what it has kept and what it has not promoted, as many rounds later as there are items in front
of it. -/
theorem ends_promoteFrom (now : Nat) (kept : List (Nat × ItemId)) (queue : WorkQueue) (waiting : List (Nat × ItemId)) :
    Look.Ends now waiting.length ⟨kept.length, { queue with delayed := kept ++ waiting }⟩
      ⟨(promoteFrom now kept queue waiting).delayed.length, promoteFrom now kept queue waiting⟩ := by
  induction waiting using sift.induct now generalizing kept queue with
  | case1 =>
    rw [promoteFrom, List.append_nil]
    exact .done (by simp [Look.next?])
  | case2 entry rest due ih =>
    have next : Look.next? now ⟨kept.length, { queue with delayed := kept ++ entry :: rest }⟩ =
        some ⟨kept.length, { queue.promote entry.2 with delayed := kept ++ lastFirst rest }⟩ := by
      simp [Look.next?, due, swapRemove_middle, promote_delayed]
    have rounds := ih kept (queue.promote entry.2)
    rw [length_lastFirst] at rounds
    rw [promoteFrom, if_pos due]
    exact .more next rounds
  | case3 entry rest early ih =>
    have next : Look.next? now ⟨kept.length, { queue with delayed := kept ++ entry :: rest }⟩ =
        some ⟨(kept ++ [entry]).length, { queue with delayed := (kept ++ [entry]) ++ rest }⟩ := by
      simp [Look.next?, early]
    rw [promoteFrom, if_neg early]
    exact .more next (ih (kept ++ [entry]) queue)

/-- When all of them are due, the first is promoted first, and the others from the last one on. -/
theorem sift_of_due {now : Nat} {first : Nat × ItemId} {rest : List (Nat × ItemId)}
    (due : ∀ entry ∈ first :: rest, entry.1 ≤ now) : sift now (first :: rest) = (first :: rest.reverse, []) := by
  induction rest using List.reverseRecOn generalizing first with
  | nil => simp [sift, lastFirst, due first List.mem_cons_self]
  | append_singleton init last ih =>
    have dueHere : ∀ entry ∈ last :: init, entry.1 ≤ now := fun entry member => due entry (by
      rcases List.mem_cons.mp member with rfl | inside
      · simp
      · simp [inside])
    rw [sift, if_pos (due first List.mem_cons_self), lastFirst_concat, ih dueHere]
    simp

/-- An item is pending exactly while it is ready, and no item waits twice. -/
structure InStep (queue : WorkQueue) : Prop where
  pending_iff : ∀ item, queue.isPending item = true ↔ item ∈ queue.ready
  delayed : (queue.delayed.map Prod.snd).Nodup

/-- What was due at a time has moved, and nothing else. -/
structure Promoted (now : Nat) (queue after : WorkQueue) : Prop where
  delayed : after.delayed.Perm (queue.delayed.filter fun entry => now < entry.1)
  ready : ∃ joined, after.ready = queue.ready ++ joined ∧ joined.Nodup ∧ ∀ item, item ∈ joined ↔
    (∃ deadline ≤ now, (deadline, item) ∈ queue.delayed) ∧ queue.isPending item = false
  inStep : after.InStep
  closed : after.closed = queue.closed
  owners : after.owners = queue.owners

variable {queue : WorkQueue} (inStep : queue.InStep) (now : Nat)

include inStep

theorem InStep.promoteDue : (queue.promoteDue now).InStep := by
  rw [promoteDue_eq now inStep.delayed]
  refine ⟨fun item => ?_, nodup_staying now inStep.delayed⟩
  have pending : ({ queue.enqueueAll (queue.joining now) with delayed := (sift now queue.delayed).2 } : WorkQueue).isPending item =
      (queue.enqueueAll (queue.joining now)).isPending item := rfl
  rw [pending, isPending_enqueueAll, Bool.or_eq_true, inStep.pending_iff, List.contains_iff_mem]
  exact or_comm.trans List.mem_append.symm

theorem InStep.promoted : Promoted now queue (queue.promoteDue now) := by
  have later := (sift_perm now queue.delayed).2
  have same : (queue.delayed.filter fun entry => ¬entry.1 ≤ now) = queue.delayed.filter fun entry => now < entry.1 :=
    List.filter_congr fun entry _ => by simp
  rw [same] at later
  have after := inStep.promoteDue now
  rw [promoteDue_eq now inStep.delayed] at after ⊢
  exact
    { delayed := later
      ready := ⟨queue.joining now, rfl, nodup_joining now inStep.delayed, fun _ => mem_joining_iff⟩
      inStep := after
      closed := rfl
      owners := rfl }

/-- Whatever is due moves to the ready items unless it is there already, once each, and nothing else moves: the look through
the waiting items ends after as many rounds as there are of them. If all of them are due and none is pending, the first one
comes first, and the others follow from the last one on. -/
theorem promotes_what_is_due :
    (∃ last, Look.Ends now queue.delayed.length ⟨0, queue⟩ last ∧ last.queue = queue.promoteDue now) ∧
    Promoted now queue (queue.promoteDue now) ∧
    ∀ first rest, queue.delayed = first :: rest →
      (∀ entry ∈ queue.delayed, entry.1 ≤ now ∧ queue.isPending entry.2 = false) →
        (queue.promoteDue now).ready = queue.ready ++ first.2 :: (rest.map Prod.snd).reverse := by
  refine ⟨⟨_, ends_promoteFrom now [] queue queue.delayed, rfl⟩, inStep.promoted now, fun first rest waiting due => ?_⟩
  have order : sift now queue.delayed = (first :: rest.reverse, []) := by
    rw [waiting] at due ⊢
    exact sift_of_due fun entry member => (due entry member).1
  have joining : queue.joining now = first.2 :: (rest.map Prod.snd).reverse := by
    rw [WorkQueue.joining, order, List.map_cons, List.map_reverse, List.filter_eq_self]
    intro item member
    have inside : item ∈ queue.delayed.map Prod.snd := by simpa [waiting] using member
    obtain ⟨entry, held, rfl⟩ := List.mem_map.mp inside
    simp [(due entry held).2]
  rw [promoteDue_eq now inStep.delayed, joining]
  rfl

omit inStep in
/-- In one queue all but item `2` are due, and item `1` is ready already; in the other all items are due. -/
theorem promotes_what_is_due_mixed :
    let mixed : WorkQueue := ⟨[1], [(5, 0), (30, 2), (10, 1), (7, 3)], [1], false, 1⟩
    let late : WorkQueue := ⟨[4], [(1, 0), (2, 1), (3, 2)], [4], false, 1⟩
    (mixed.promoteDue 10).ready = [1, 0, 3] ∧ (mixed.promoteDue 10).delayed = [(30, 2)] ∧
      Promoted 10 mixed (mixed.promoteDue 10) ∧
      (∃ last, Look.Ends 10 4 ⟨0, mixed⟩ last ∧ last.queue = mixed.promoteDue 10) ∧
      (late.promoteDue 10).ready = [4, 0, 2, 1] := by
  intro mixed late
  have mixedInStep : mixed.InStep := ⟨fun item => by simp [mixed, isPending], by decide⟩
  have lateInStep : late.InStep := ⟨fun item => by simp [late, isPending], by decide⟩
  obtain ⟨ended, promoted, _⟩ := promotes_what_is_due mixedInStep 10
  obtain ⟨_, _, order⟩ := promotes_what_is_due lateInStep 10
  refine ⟨?_, ?_, promoted, ended, order _ _ rfl (by decide)⟩
  · simp [mixed, WorkQueue.promoteDue, promoteFrom, promote, isPending, enqueue, lastFirst]
  · simp [mixed, WorkQueue.promoteDue, promoteFrom, promote, isPending, enqueue, lastFirst]

end LeafHub.WorkQueue
