import LeafHub.Proofs.Work.Orderly

namespace LeafHub

/-- What became of an item that was made ready. -/
inductive Fate where
  | waiting
  | started
  | dropped
  deriving DecidableEq

structure Account where
  queue : WorkQueue
  entries : List (ItemId × Fate)
  started : List ItemId

namespace Account

def opening (queue : WorkQueue) : Account where
  queue
  entries := queue.ready.map fun item => (item, .waiting)
  started := []

/-- Marks the waiting entries of some items as dropped. -/
def drop (which : ItemId → Bool) (entry : ItemId × Fate) : ItemId × Fate :=
  if entry.2 = .waiting && which entry.1 then (entry.1, .dropped) else entry

/-- Marks the first waiting entry as started. -/
def startFirst : List (ItemId × Fate) → List (ItemId × Fate)
  | [] => []
  | entry :: rest => if entry.2 = .waiting then (entry.1, .started) :: rest else entry :: startFirst rest

/-- What a request does to the entries that are there. -/
def settle (entries : List (ItemId × Fate)) : WorkRequest → List (ItemId × Fate)
  | .cancel item => entries.map (drop (· = item))
  | .shutdown => entries.map (drop fun _ => true)
  | .turn _ => startFirst entries
  | _ => entries

/-- The account after a request. -/
def book (account : Account) (request : WorkRequest) : Account where
  queue := account.queue.after request
  entries := settle (account.entries ++ (account.queue.enqueued request).map fun item => (item, .waiting)) request
  started := account.started ++ account.queue.started request

/-- The items of the entries of one fate. -/
def ofFate (fate : Fate) (entries : List (ItemId × Fate)) : List ItemId :=
  (entries.filter fun entry => entry.2 = fate).map Prod.fst

/-- No entry is started before an earlier one that still waits. -/
def InTurn (entries : List (ItemId × Fate)) : Prop :=
  entries.Pairwise fun earlier later => earlier.2 = .waiting → later.2 ≠ .started

/-- The runs that were started are the entries so marked, in order, and what waits is what is ready. -/
structure Faithful (account : Account) : Prop where
  orderly : account.queue.Orderly
  inTurn : InTurn account.entries
  waiting : account.queue.ready = ofFate .waiting account.entries
  started : account.started = ofFate .started account.entries

section Entries

variable {entries : List (ItemId × Fate)}

theorem ofFate_append (fate : Fate) (more : List (ItemId × Fate)) :
    ofFate fate (entries ++ more) = ofFate fate entries ++ ofFate fate more := by
  simp [ofFate]

theorem ofFate_new (fate : Fate) (items : List ItemId) :
    ofFate fate (items.map fun item => (item, .waiting)) = if fate = .waiting then items else [] := by
  cases fate <;> simp [ofFate, List.filter_map, Function.comp_def]

theorem ofFate_drop (which : ItemId → Bool) (entries : List (ItemId × Fate)) :
    ofFate .waiting (entries.map (drop which)) = (ofFate .waiting entries).filter (fun item => !which item) ∧
      ofFate .started (entries.map (drop which)) = ofFate .started entries := by
  induction entries with
  | nil => exact ⟨rfl, rfl⟩
  | cons entry rest ih =>
    obtain ⟨item, fate⟩ := entry
    simp only [ofFate] at ih
    cases fate <;> cases chosen : which item <;> simp [ofFate, drop, chosen, ih]

/-- New entries wait. -/
theorem InTurn.append (inTurn : InTurn entries) (items : List ItemId) :
    InTurn (entries ++ items.map fun item => (item, .waiting)) := by
  have waits : ∀ entry ∈ items.map fun item => (item, Fate.waiting), entry.2 ≠ .started := by
    simp
  refine List.pairwise_append.mpr ⟨inTurn, ?_, fun earlier _ later member _ => waits later member⟩
  exact List.pairwise_of_forall_mem_list fun _ _ later member _ => waits later member

theorem InTurn.drop (inTurn : InTurn entries) (which : ItemId → Bool) : InTurn (entries.map (drop which)) := by
  have fate (entry : ItemId × Fate) : (Account.drop which entry).2 = .dropped ∨
      (Account.drop which entry).2 = entry.2 := by
    unfold Account.drop
    split
    · exact .inl rfl
    · exact .inr rfl
  refine List.pairwise_map.mpr (inTurn.imp fun {earlier later} before waits => ?_)
  rcases fate earlier with gone | same
  · rw [gone] at waits
    cases waits
  · rcases fate later with gone | same'
    · rw [gone]
      decide
    · rw [same']
      exact before (same ▸ waits)

/-- If nothing waits, nothing is started. -/
theorem startFirst_eq_self (nothing : ofFate .waiting entries = []) : startFirst entries = entries := by
  induction entries with
  | nil => rfl
  | cons entry rest ih =>
    obtain ⟨item, fate⟩ := entry
    by_cases waits : fate = .waiting
    · simp [ofFate, waits] at nothing
    · rw [startFirst, if_neg waits, ih]
      simpa [ofFate, waits] using nothing

/-- Otherwise the first item that waits is started next. -/
theorem InTurn.startFirst (inTurn : InTurn entries) {item : ItemId} {others : List ItemId}
    (front : ofFate .waiting entries = item :: others) :
    InTurn (startFirst entries) ∧ ofFate .waiting (startFirst entries) = others ∧
      ofFate .started (startFirst entries) = ofFate .started entries ++ [item] := by
  induction entries with
  | nil => cases front
  | cons entry rest ih =>
    obtain ⟨before, inTurn⟩ := List.pairwise_cons.mp inTurn
    by_cases waits : entry.2 = .waiting
    · have none : ofFate .started rest = [] := by
        simp only [ofFate, List.map_eq_nil_iff, List.filter_eq_nil_iff, decide_eq_true_eq]
        exact fun later member => before later member waits
      rw [Account.startFirst, if_pos waits]
      have whole : ofFate .waiting (entry :: rest) = entry.1 :: ofFate .waiting rest := by simp [ofFate, waits]
      rw [whole] at front
      cases front
      refine ⟨List.pairwise_cons.mpr ⟨fun later _ waits' => (by cases waits'), inTurn⟩, ?_, ?_⟩
      · simp [ofFate]
      · simp only [ofFate] at none
        simp [ofFate, waits, none]
    · rw [Account.startFirst, if_neg waits]
      obtain ⟨inTurn', waiting, started⟩ := ih inTurn (by simpa [ofFate, waits] using front)
      refine ⟨List.pairwise_cons.mpr ⟨fun later _ waits' => absurd waits' waits, inTurn'⟩, ?_, ?_⟩
      · simpa [ofFate, waits] using waiting
      · by_cases ran : entry.2 = .started <;> simpa [ofFate, ran] using started

end Entries

theorem faithful_opening {queue : WorkQueue} (orderly : queue.Orderly) : (opening queue).Faithful where
  orderly := orderly
  inTurn := InTurn.append .nil queue.ready
  waiting := by simp [opening, ofFate_new]
  started := by simp [opening, ofFate_new]

theorem ofFate_enqueued (fate : Fate) (entries : List (ItemId × Fate)) (items : List ItemId) :
    ofFate fate (entries ++ items.map fun item => (item, .waiting)) =
      ofFate fate entries ++ if fate = .waiting then items else [] := by
  rw [ofFate_append, ofFate_new]

namespace Faithful

variable {account : Account} (faithful : account.Faithful)

include faithful

theorem submit (item : ItemId) : (account.book (.submit item)).Faithful := by
  refine ⟨faithful.orderly.submit item, faithful.inTurn.append _, ?_, ?_⟩
  · show (account.queue.submit item).2.ready = ofFate .waiting (_ ++ _)
    rw [ofFate_enqueued, ← faithful.waiting]
    simp only [WorkQueue.enqueued, WorkQueue.submit]
    split <;> simp [WorkQueue.enqueue]
  · show account.started ++ [] = ofFate .started (_ ++ _)
    rw [ofFate_enqueued, ← faithful.started]
    simp

/-- A request that touches waiting items only. -/
theorem same {request : WorkRequest} (ready : (account.queue.after request).ready = account.queue.ready)
    (entries : (account.book request).entries = account.entries) (none : account.queue.started request = []) :
    (account.book request).Faithful where
  orderly := faithful.orderly.after request
  inTurn := entries ▸ faithful.inTurn
  waiting := by rw [entries, ← faithful.waiting, ← ready]; rfl
  started := by rw [entries, ← faithful.started, book, none, List.append_nil]

theorem cancel (item : ItemId) : (account.book (.cancel item)).Faithful := by
  have dropped := ofFate_drop (· = item) account.entries
  have whole : (account.book (.cancel item)).entries = account.entries.map (drop (· = item)) := by
    simp [book, settle, WorkQueue.enqueued]
  refine ⟨faithful.orderly.cancel item, whole ▸ faithful.inTurn.drop _, ?_, ?_⟩
  · rw [whole, dropped.1, ← faithful.waiting]
    show (account.queue.cancel item).2.ready = _
    unfold WorkQueue.cancel
    dsimp only
    split
    · simp
    · rename_i idle
      have absent : item ∉ account.queue.ready := fun member => idle ((faithful.orderly.pending_iff item).mpr member)
      symm
      refine List.filter_eq_self.mpr fun other member => ?_
      have apart : other ≠ item := fun same => absent (same ▸ member)
      simpa using apart
  · rw [whole, dropped.2, ← faithful.started]
    simp [book, WorkQueue.started]

theorem shutdown : (account.book .shutdown).Faithful := by
  have dropped := ofFate_drop (fun _ => true) account.entries
  have whole : (account.book .shutdown).entries = account.entries.map (drop fun _ => true) := by
    simp [book, settle, WorkQueue.enqueued]
  refine ⟨faithful.orderly.shutdown, whole ▸ faithful.inTurn.drop _, ?_, ?_⟩
  · rw [whole, dropped.1]
    simp [book, WorkQueue.after, WorkQueue.shutdown]
  · rw [whole, dropped.2, ← faithful.started]
    simp [book, WorkQueue.started]

theorem turn (now : Nat) : (account.book (.turn now)).Faithful := by
  have joined : (account.queue.promoteDue now).ready = account.queue.ready ++ account.queue.joining now := by
    rw [faithful.orderly.promoteDue_eq]
    rfl
  have inTurn := faithful.inTurn.append (account.queue.joining now)
  have waiting := ofFate_enqueued .waiting account.entries (account.queue.joining now)
  have started := ofFate_enqueued .started account.entries (account.queue.joining now)
  rw [← faithful.waiting, if_pos rfl, ← joined] at waiting
  rw [← faithful.started, if_neg (by decide), List.append_nil] at started
  have promoted := faithful.orderly.promoteDue now
  have next : (account.book (.turn now)) = ⟨(account.queue.turn now).2,
      startFirst (account.entries ++ (account.queue.joining now).map fun item => (item, .waiting)),
      account.started ++ (account.queue.turn now).1.toList⟩ := rfl
  rw [next]
  obtain ⟨empty, ran⟩ | ⟨item, rest, front, ran⟩ := account.queue.turn_cases now
  · rw [ran, startFirst_eq_self (waiting.trans empty)]
    exact ⟨promoted, inTurn, waiting.symm, by simp [started]⟩
  · obtain ⟨inTurn, waiting', started'⟩ := inTurn.startFirst (waiting.trans front)
    have orderly := promoted.lower item
    rw [← promoted.rest_eq front] at orderly
    rw [ran]
    exact ⟨orderly, inTurn, waiting'.symm, by simp [started', started]⟩

theorem book (request : WorkRequest) : (account.book request).Faithful := by
  cases request with
  | submit item => exact faithful.submit item
  | schedule item deadline =>
    refine faithful.same ?_ (List.append_nil _) rfl
    show (account.queue.schedule item deadline).2.ready = _
    unfold WorkQueue.schedule
    split <;> rfl
  | reschedule item deadline =>
    refine faithful.same ?_ (List.append_nil _) rfl
    show (account.queue.reschedule item deadline).2.ready = _
    unfold WorkQueue.reschedule
    split <;> rfl
  | cancel item => exact faithful.cancel item
  | turn now => exact faithful.turn now
  | shutdown => exact faithful.shutdown

end Faithful

theorem map_fst_startFirst (entries : List (ItemId × Fate)) :
    (startFirst entries).map Prod.fst = entries.map Prod.fst := by
  induction entries with
  | nil => rfl
  | cons entry rest ih =>
    unfold startFirst
    split
    · rfl
    · rw [List.map_cons, List.map_cons, ih]

/-- No request takes an entry away or puts one out of its place. -/
theorem map_fst_settle (entries : List (ItemId × Fate)) (request : WorkRequest) :
    (settle entries request).map Prod.fst = entries.map Prod.fst := by
  have dropped (which : ItemId → Bool) : (entries.map (drop which)).map Prod.fst = entries.map Prod.fst := by
    rw [List.map_map]
    refine List.map_congr_left fun entry _ => ?_
    simp only [Function.comp_apply, drop]
    split <;> rfl
  cases request with
  | cancel item => exact dropped _
  | shutdown => exact dropped _
  | turn now => exact map_fst_startFirst entries
  | _ => rfl

/-- The account after several requests. -/
def books (account : Account) (requests : List WorkRequest) : Account :=
  requests.foldl book account

theorem books_append (account : Account) (requests : List WorkRequest) (request : WorkRequest) :
    account.books (requests ++ [request]) = (account.books requests).book request := by
  simp [books]

theorem Faithful.books {account : Account} (faithful : account.Faithful) (requests : List WorkRequest) :
    (account.books requests).Faithful := by
  induction requests generalizing account with
  | nil => exact faithful
  | cons request rest ih => exact ih (faithful.book request)

/-- There is an entry for everything that was ever put among the ready items, in that order. -/
theorem items_books (account : Account) (requests : List WorkRequest) :
    (account.books requests).entries.map Prod.fst =
      account.entries.map Prod.fst ++ account.queue.enqueues requests := by
  induction requests generalizing account with
  | nil => exact (List.append_nil _).symm
  | cons request rest ih =>
    have booked : (account.book request).entries.map Prod.fst =
        account.entries.map Prod.fst ++ account.queue.enqueued request := by
      simp [book, map_fst_settle, Function.comp_def]
    refine (ih (account.book request)).trans ?_
    rw [booked, List.append_assoc]
    rfl

end Account

end LeafHub
