import Mathlib.Data.List.Sort
import LeafHub.Boot

namespace LeafHub

/-- The band of what is not a hook; a hook may stand anywhere. -/
def BootAction.band? : BootAction → Option Nat
  | .registerClass _ => some BootBand.classes
  | .initLeaf _ => some BootBand.leafInit
  | .startLeaf _ => some BootBand.leafStart
  | .hook _ => none

namespace BootEntry

/-- The entry that inits a leaf. -/
def initOf (id : LeafId) (name : String) : BootEntry :=
  ⟨BootBand.leafInit, "init " ++ name, .initLeaf id⟩

/-- The entry that starts a leaf. -/
def startOf (id : LeafId) (name : String) : BootEntry :=
  ⟨BootBand.leafStart, "start " ++ name, .startLeaf id⟩

theorem initOf_injective {id : LeafId} {name other : String} (same : initOf id name = initOf id other) : name = other := by
  have labels : "init " ++ name = "init " ++ other := congrArg label same
  have letters := congrArg String.toList labels
  rw [String.toList_append, String.toList_append] at letters
  exact String.toList_inj.mp (List.append_cancel_left letters)

/-- The entry is about the leaf. -/
def concerns (id : LeafId) (entry : BootEntry) : Bool :=
  entry.action.leaf? = some id

end BootEntry

/-- The stable sort by priority. -/
structure StablySorted (entries schedule : List BootEntry) : Prop where
  perm : schedule.Perm entries
  sorted : schedule.Pairwise fun earlier later => earlier.priority ≤ later.priority
  stable : ∀ priority, schedule.filter (·.priority = priority) = entries.filter (·.priority = priority)

namespace BootTable

open BootEntry

theorem stablySorted_schedule (table : BootTable) : StablySorted table.entries table.schedule := by
  have trans (first second third : BootEntry) : decide (first.priority ≤ second.priority) = true →
      decide (second.priority ≤ third.priority) = true → decide (first.priority ≤ third.priority) = true := by
    simp only [decide_eq_true_eq]
    exact Nat.le_trans
  have total (first second : BootEntry) :
      (decide (first.priority ≤ second.priority) || decide (second.priority ≤ first.priority)) = true := by
    simp only [Bool.or_eq_true, decide_eq_true_eq]
    exact Nat.le_total _ _
  have perm : table.schedule.Perm table.entries := List.mergeSort_perm _ _
  refine ⟨perm, ?_, fun priority => ?_⟩
  · exact (List.pairwise_mergeSort trans total table.entries).imp fun le => of_decide_eq_true le
  · -- entries of one priority are sorted as they stand, so they stay in their order, and none is new
    have level : (table.entries.filter (·.priority = priority)).Pairwise fun first second =>
        decide (first.priority ≤ second.priority) = true := by
      refine List.pairwise_of_forall_mem_list fun first one second other => ?_
      simp only [List.mem_filter, decide_eq_true_eq] at one other
      exact decide_eq_true (Nat.le_of_eq (one.2.trans other.2.symm))
    have kept := List.sublist_mergeSort trans total level List.filter_sublist
    have same := (kept.filter (·.priority = priority)).eq_of_length
    rw [List.filter_filter] at same
    simp only [Bool.and_self] at same
    exact (same (perm.filter _).length_eq.symm).symm

/-- Tables that definitions have filled, while anything else may have happened to the hub. A defined leaf is a new
one. -/
inductive Built : Hub → BootTable → Prop
  | empty (hub) : Built hub .empty
  | defineClass {hub table} (leafClass) : Built hub table → Built hub (table.defineClass leafClass)
  | defineLeaf {hub table} (leafClass name context) : Built hub table →
      Built ((Hub.newLeaf (.fresh leafClass name context)).run hub).2
        (table.defineLeaf ((Hub.newLeaf (.fresh leafClass name context)).run hub).1 name)
  | defineHook {hub table} (priority label behaviour) : Built hub table →
      Built hub (table.defineHook priority label behaviour)
  | meanwhile {hub after table} : Built hub table → hub.leaves.size ≤ after.leaves.size → Built after table

namespace Built

variable {hub : Hub} {table : BootTable}

theorem known (built : Built hub table) {entry : BootEntry} (member : entry ∈ table.entries) {id : LeafId}
    (own : entry.action.leaf? = some id) : id < hub.leaves.size := by
  induction built with
  | empty => cases member
  | meanwhile _ grows ih => exact Nat.lt_of_lt_of_le (ih member) grows
  | defineClass leafClass _ ih | defineHook priority label behaviour _ ih =>
    obtain before | new := List.mem_append.mp member
    · exact ih before
    · rw [List.mem_singleton.mp new] at own
      cases own
  | @defineLeaf hub table leafClass name context _ ih =>
    have size : ((Hub.newLeaf (.fresh leafClass name context)).run hub).2.leaves.size = hub.leaves.size + 1 :=
      Pool.size_add _ _
    rw [size]
    simp only [BootTable.defineLeaf, BootTable.add, List.append_assoc, List.mem_append, List.mem_singleton] at member
    obtain before | rfl | rfl := member
    · exact Nat.lt_succ_of_lt (ih before)
    · cases own
      exact Nat.lt_succ_self _
    · cases own
      exact Nat.lt_succ_self _

theorem banded (built : Built hub table) {entry : BootEntry} (member : entry ∈ table.entries) {band : Nat}
    (own : entry.action.band? = some band) : entry.priority = band := by
  induction built with
  | empty => cases member
  | meanwhile _ _ ih => exact ih member
  | defineClass leafClass _ ih | defineHook priority label behaviour _ ih =>
    obtain before | new := List.mem_append.mp member
    · exact ih before
    · rw [List.mem_singleton.mp new] at own ⊢
      cases own
      all_goals rfl
  | defineLeaf leafClass name context _ ih =>
    simp only [BootTable.defineLeaf, BootTable.add, List.append_assoc, List.mem_append, List.mem_singleton] at member
    obtain before | rfl | rfl := member
    · exact ih before
    · cases own
      rfl
    · cases own
      rfl

/-- Classes are registered before leaves are inited, and leaves are inited before leaves are started. -/
theorem bands_in_order (built : Built hub table) : table.schedule.Pairwise fun earlier later =>
    ∀ one ∈ earlier.action.band?, ∀ other ∈ later.action.band?, one ≤ other := by
  obtain ⟨perm, sorted, _⟩ := table.stablySorted_schedule
  refine sorted.imp_of_mem fun {earlier later} first second le one here other there => ?_
  rw [← built.banded (perm.mem_iff.mp first) here, ← built.banded (perm.mem_iff.mp second) there]
  exact le

/-- The entries of a leaf in the table. -/
theorem own_entries (built : Built hub table) (id : LeafId) :
    table.entries.filter (concerns id) = [] ∨
      ∃ name, table.entries.filter (concerns id) = [initOf id name, startOf id name] := by
  induction built with
  | empty => exact .inl rfl
  | meanwhile _ _ ih => exact ih
  | defineClass leafClass _ ih | defineHook priority label behaviour _ ih =>
    simpa [BootTable.defineClass, BootTable.defineHook, BootTable.add, concerns, BootAction.leaf?] using ih
  | @defineLeaf hub table leafClass name context before ih =>
    have entries : (table.defineLeaf hub.leaves.size name).entries =
        table.entries ++ [initOf hub.leaves.size name, startOf hub.leaves.size name] := by
      simp [BootTable.defineLeaf, BootTable.add, initOf, startOf]
    show List.filter _ (table.defineLeaf hub.leaves.size name).entries = [] ∨ ∃ name',
      List.filter _ (table.defineLeaf hub.leaves.size name).entries = _
    rw [entries, List.filter_append]
    by_cases here : hub.leaves.size = id
    · have fresh : table.entries.filter (concerns id) = [] := by
        refine List.filter_eq_nil_iff.mpr fun entry member own => ?_
        have old := before.known member (of_decide_eq_true own)
        rw [here] at old
        exact Nat.lt_irrefl _ old
      refine .inr ⟨name, ?_⟩
      simp [fresh, here, concerns, initOf, startOf, BootAction.leaf?]
    · simpa [concerns, initOf, startOf, BootAction.leaf?, here] using ih

/-- The entries of a defined leaf in the schedule. -/
theorem own_schedule (built : Built hub table) {id : LeafId} {name : String} (defined : initOf id name ∈ table.entries) :
    table.schedule.filter (concerns id) = [initOf id name, startOf id name] := by
  have own : table.entries.filter (concerns id) = [initOf id name, startOf id name] := by
    have member : initOf id name ∈ table.entries.filter (concerns id) :=
      List.mem_filter.mpr ⟨defined, decide_eq_true rfl⟩
    obtain none | ⟨other, two⟩ := built.own_entries id
    · rw [none] at member
      cases member
    · rw [two] at member ⊢
      have same : initOf id name = initOf id other := by simpa [initOf, startOf] using member
      rw [initOf_injective same]
  obtain ⟨perm, sorted, _⟩ := table.stablySorted_schedule
  have filtered : (table.schedule.filter (concerns id)).Perm [initOf id name, startOf id name] := own ▸ perm.filter _
  -- sorted, the two entries can only stand in one way, because their bands are apart
  have apart : ¬(startOf id name).priority ≤ (initOf id name).priority :=
    show ¬BootBand.leafStart ≤ BootBand.leafInit by decide
  refine List.Perm.eq_of_pairwise (fun first second one other le ge => ?_) (sorted.filter _) ?_ filtered
  · replace one := filtered.mem_iff.mp one
    simp only [List.mem_cons, List.not_mem_nil, or_false] at one other
    obtain rfl | rfl := one <;> obtain rfl | rfl := other
    · rfl
    · exact absurd ge apart
    · exact absurd le apart
    · rfl
  · simp [initOf, startOf, BootBand.leafInit, BootBand.leafStart]

section Split

variable (built : Built hub table) {id other : LeafId} {name owner : String} {entry : BootEntry}
  {earlier later : List BootEntry}

include built

/-- The entries that are about a defined leaf are its own two. -/
theorem own_of_concerns (defined : initOf id name ∈ table.entries) (member : entry ∈ table.schedule)
    (own : concerns id entry = true) : entry = initOf id name ∨ entry = startOf id name := by
  have filtered : entry ∈ table.schedule.filter (concerns id) := List.mem_filter.mpr ⟨member, own⟩
  rw [built.own_schedule defined] at filtered
  simpa using filtered

/-- What is about a defined leaf comes once. -/
theorem once_of_concerns (defined : initOf id name ∈ table.entries) (split : table.schedule = earlier ++ entry :: later)
    (own : concerns id entry = true) : entry ∉ earlier := by
  have distinct : (table.schedule.filter (concerns id)).Nodup := by
    rw [built.own_schedule defined]
    simp [initOf, startOf]
  rw [split, List.filter_append, List.filter_cons_of_pos own, List.nodup_append] at distinct
  exact fun before => distinct.2.2 entry (List.mem_filter.mpr ⟨before, own⟩) entry List.mem_cons_self rfl

theorem no_start_before_init (split : table.schedule = earlier ++ initOf id name :: later) : startOf other owner ∉ earlier := by
  intro before
  have order := built.bands_in_order
  rw [split, List.pairwise_append] at order
  exact absurd (order.2.2 _ before _ List.mem_cons_self BootBand.leafStart rfl BootBand.leafInit rfl) (by decide)

theorem init_before_start (defined : initOf id name ∈ table.entries)
    (split : table.schedule = earlier ++ startOf other owner :: later) : initOf id name ∈ earlier := by
  have order := built.bands_in_order
  have member := table.stablySorted_schedule.perm.mem_iff.mpr defined
  rw [split, List.pairwise_append, List.pairwise_cons] at order
  rw [split, List.mem_append, List.mem_cons] at member
  obtain before | here | after := member
  · exact before
  · simp [initOf, startOf] at here
  · exact absurd (order.2.1.1 _ after BootBand.leafStart rfl BootBand.leafInit rfl) (by decide)

end Split

end Built

end BootTable

end LeafHub
