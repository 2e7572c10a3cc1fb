import LeafHub.Proofs.Hub.AllOrNothing
import LeafHub.Proofs.Hub.Stake

namespace LeafHub

open Hub

variable {stake : Stake} {hub : Hub} {id : CellId}

theorem Hub.recelled_putNoted {value : Value} (sort : value.kind = (hub.cell id).kind) (happening : Happening) :
    hub.Recelled (hub.putNoted id value happening) := by
  have noted {put : Hub} (recelled : hub.Recelled put) :
      hub.Recelled { put with journal := hub.journal.push happening } :=
    recelled.tail (.aside rfl rfl)
  refine noted ?_
  by_cases event : (hub.cell id).payload.kind = .event ∧ value.kind = .event
  · obtain ⟨flags, has⟩ := Payload.exists_flags? event.1
    cases value with
    | event bits =>
      rw [put_of_flags has]
      exact .single (.flagged hub flags bits)
    | _ => cases event.2
  · have apart (plain : (hub.cell id).payload.kind = .event) : value.kind ≠ .event := fun same => event ⟨plain, same⟩
    rw [put_of_apart fun flags bits holds same => ?_]
    · exact .single (.filled hub id value sort apart)
    · rw [holds, same] at event
      exact event ⟨rfl, rfl⟩

theorem Hub.putNoted_of_unknown (unknown : hub.cells.size ≤ id) (value : Value) (happening : Happening) :
    hub.putNoted id value happening = { hub with journal := hub.journal.push happening } := by
  rw [putNoted, put_of_apart fun flags bits holds _ => ?_, Pool.set_unknown unknown]
  rw [cell, Pool.get_unknown unknown] at holds
  cases holds

namespace Stake

theorem respects_onlyLogged {after : Hub} (only : hub.OnlyLogged after) : stake.Respects hub after := by
  obtain ⟨lines, rfl⟩ := only
  exact respects_aside (fun _ => ⟨rfl, rfl⟩) (Nat.le_refl _) rfl rfl rfl rfl rfl rfl
    (adds_of_lines (fun _ _ _ _ => nofun) rfl)

/-- A cell is written, and it does not matter for what the leaf relies on whose cell that is. -/
theorem Sole.wrote (sole : stake.Sole hub) {written : Hub} {value : Value} (wrote : hub.Wrote id value written)
    (recelled : hub.Recelled written) {queues : Pool WorkQueue} {journal : Array Happening}
    (serves : ∀ item ∈ stake.item?, Hub.Serves { written with queues, journal } stake.leaf item) :
    stake.Sole { written with queues, journal } := by
  obtain ⟨sound, continues⟩ := recelled.keeps sole.sound
  exact
    { known := wrote.leaves ▸ sole.known
      sound := sound.of_same rfl rfl
      cells := fun cell own =>
        ⟨Nat.lt_of_lt_of_le (sole.cells cell own).1 continues.size, wrote.settingList ▸ (sole.cells cell own).2⟩
      named := fun cell own => (wrote.name cell).symm ▸ sole.named cell own
      serves := serves
      clear := fun other context apart holds => by
        refine sole.clear other context apart (.trans ?_ holds)
        exact (congrArg (fun leaves => (Pool.get leaves other).context) wrote.leaves).symm }

/-- A cell has a new value and its subscriber was told. Without an item of its own a stake has no part in that, even if
it is in the cell. -/
theorem Sole.told (sole : stake.Sole hub) (free : stake.item? = none) {value : Value} (known : id < hub.cells.size)
    (sort : value.kind = (hub.cell id).kind) {happening : Happening} (changed : happening.changed? = some id) :
    ∃ written queues journal, ((notify id).run (hub.putNoted id value happening)).2 = { written with queues, journal } ∧
      hub.Wrote id value written ∧ hub.Continues written ∧ stake.Sole { written with queues, journal } := by
  have wrote := sole.sound.wrote_putNoted known sort changed
  have recelled := recelled_putNoted sort happening
  obtain ⟨queues, journal, told⟩ := requeued_notify id (hub.putNoted id value happening)
  refine ⟨_, queues, journal, told, wrote, (recelled.keeps sole.sound).2, sole.wrote wrote recelled fun item own => ?_⟩
  rw [free] at own
  exact absurd own (Option.not_mem_none item)

/-- A cell that nobody has a stake in is written, and the item of the stake does not mind how queues change. -/
theorem respects_wrote {written : Hub} {value : Value} (wrote : hub.Wrote id value written)
    (recelled : hub.Recelled written) (apart : id ∉ stake.cells) {queues : Pool WorkQueue}
    (minds : ∀ item ∈ stake.item?, hub.Serves stake.leaf item →
      hub.Bides item { written with queues } ∧ Hub.Serves { written with queues } stake.leaf item) :
    stake.Respects hub { written with queues } := by
  intro sole
  obtain ⟨_, continues⟩ := recelled.keeps sole.sound
  obtain ⟨lines, happening, changed, journal⟩ := wrote.noted
  have leaf (other : LeafId) : Hub.leaf { written with queues } other = hub.leaf other :=
    congrArg (Pool.get · other) wrote.leaves
  have pin (name : String) : Hub.pin { written with queues } name = hub.pin name :=
    congrArg (fun pins => (Directory.get? pins name).getD _) wrote.pins
  constructor
  · refine
      { context := by rw [leaf]
        leafClass := by rw [leaf]
        pins := fun name _ => pin name
        cells := fun cell member => wrote.others cell fun same => apart (same ▸ member)
        items := fun item member => (minds item member (sole.serves item member)).1
        continues := ⟨continues.size, continues.name, continues.kind, continues.flags⟩
        past := ⟨lines.map (fun line => .log line.1 line.2) ++ [happening], by simp [journal, withLines],
          fun other member cell within => ?_⟩ }
    rcases List.mem_append.mp member with line | last
    · obtain ⟨line, _, rfl⟩ := List.mem_map.mp line
      exact fun same => by cases same
    · rw [List.mem_singleton.mp last, changed]
      intro same
      exact apart (Option.some.inj same ▸ within)
  · exact sole.wrote wrote recelled fun item member => (minds item member (sole.serves item member)).2

/-- An item that hears of a change of its cell is ready, and its queue goes on serving it. -/
theorem heard_of_submit {written : Hub} {leaf : LeafId} {item : ItemId} (serves : written.Serves leaf item) :
    ∃ queues, ((submit item).run written).2 = { written with queues } ∧
      ((submit item).run written).2.Serves leaf item ∧ ((submit item).run written).2.isPending item = true := by
  have owned : (written.queueOf item).owners ≠ 0 := by
    rw [queueOf, serves.queue]
    exact serves.owned
  obtain ⟨pending, _, closed, owners⟩ := WorkQueue.submit_self serves.opened item
  obtain ⟨queues, asked, later, own⟩ :=
    serves.asked (fun queue => queue.submit item) (fun _ orderly => orderly.submit item) closed owners
  have submitted : ((submit item).run written).2 = { written with queues } := by
    rw [run_submit, if_neg owned]
    exact asked
  rw [submitted]
  refine ⟨queues, rfl, later, ?_⟩
  rw [isPending, queueOf, later.queue]
  exact own ▸ pending

section Told

variable (apart : id ∉ stake.cells) {value : Value} {happening : Happening} (changed : happening.changed? = some id)

include apart changed

/-- A cell changes that the item of the stake is not attached to. -/
theorem respects_unheard (known : id < hub.cells.size) (sort : value.kind = (hub.cell id).kind)
    (unheard : ∀ item ∈ stake.item?, ¬hub.Attached item id) :
    stake.Respects hub (hub.putNoted id value happening) := by
  intro sole
  have wrote := sole.sound.wrote_putNoted known sort changed
  refine respects_wrote wrote (recelled_putNoted sort happening) apart (fun item member serves => ?_) sole
  have attached (cell : CellId) : (hub.putNoted id value happening).Attached item cell ↔ hub.Attached item cell := by
    rw [Attached, Attached, wrote.subscriber]
  refine ⟨bides_of_same (by rw [wrote.items]) wrote.queues attached fun cell attached => ?_,
    serves_of_same serves wrote.items wrote.queues⟩
  have elsewhere : cell ≠ id := fun same => unheard item member (same ▸ attached)
  exact congrArg Cell.payload (wrote.others cell elsewhere).1

/-- A cell changes that the item of the stake is attached to, and the item is ready. -/
theorem respects_heard (known : id < hub.cells.size) (sort : value.kind = (hub.cell id).kind) {item : ItemId}
    (mine : item ∈ stake.item?) (attached : hub.Attached item id) :
    stake.Respects hub ((submit item).run (hub.putNoted id value happening)).2 := by
  intro sole
  have wrote := sole.sound.wrote_putNoted known sort changed
  have serves := serves_of_same (sole.serves item mine) wrote.items wrote.queues
  obtain ⟨queues, submitted, serving, pending⟩ := heard_of_submit serves
  rw [submitted] at serving pending ⊢
  refine respects_wrote wrote (recelled_putNoted sort happening) apart (fun other member _ => ?_) sole
  obtain rfl : other = item := Option.mem_unique member mine
  refine ⟨?_, serving⟩
  exact
    { same := congrArg (Pool.get · other) wrote.items
      pending := fun _ => pending
      waits := fun _ => .inl pending
      idle := fun _ => .inr ⟨id, attached⟩
      attached := fun cell => by
        rw [Attached, Attached, ← wrote.subscriber]
        rfl
      heard := fun _ _ => .inr pending }

/-- A cell is written, noted and told of. -/
theorem respects_told (sort : value.kind = (hub.cell id).kind) :
    stake.Respects hub ((notify id).run (hub.putNoted id value happening)).2 := by
  intro sole
  have notified := run_notify (hub.putNoted id value happening) id
  rcases Nat.lt_or_ge id hub.cells.size with known | unknown
  · have wrote := sole.sound.wrote_putNoted known sort changed
    rw [wrote.subscriber] at notified
    rw [notified]
    cases holder : (hub.cell id).subscriber with
    | none =>
      refine respects_unheard apart changed known sort (fun item _ attached => ?_) sole
      rw [Attached, holder] at attached
      cases attached
    | some other =>
      by_cases mine : other ∈ stake.item?
      · exact respects_heard apart changed known sort mine holder sole
      · have unheard := respects_unheard apart changed known sort fun item member attached => by
          rw [Attached, holder] at attached
          exact mine (Option.some.inj attached ▸ member)
        exact (passage_respects stake).trans unheard (respects_submit mine _) sole
  · have silent : (Hub.cell { hub with journal := hub.journal.push happening } id).subscriber = none :=
      subscriber_of_unknown unknown
    rw [putNoted_of_unknown unknown] at notified ⊢
    rw [silent] at notified
    rw [notified]
    refine respects_noted hub (fun cell member => ?_) sole
    rw [changed]
    exact fun same => apart (Option.some.inj same ▸ member)

end Told

theorem respects_store (apart : id ∉ stake.cells) (value : Value) : stake.Respects hub ((store id value).run.run hub).2 := by
  rw [run_store]
  split
  · exact respects_log _ _ hub
  · rename_i sort
    exact respects_told apart rfl (Decidable.of_not_not sort)

/-- Whatever is asked of another cell. -/
theorem respects_mutation (mutation : Mutation) (apart : ∀ id, mutation.cell? hub = some id → id ∉ stake.cells) :
    stake.Respects hub (mutation.run.run hub).2 := by
  intro sole
  have effect := hub.effect mutation
  generalize (mutation.run.run hub).1 = granted at effect
  generalize (mutation.run.run hub).2 = after at effect
  cases effect with
  | refused _ _ only => exact respects_onlyLogged only sole
  | passedOver _ only => exact respects_onlyLogged only sole
  | @granted id value happening started about asks changed only =>
    have sort : value.kind = (started.cell id).kind := by
      rw [Hub.cell, only.cells]
      exact sole.sound.kind_value? asks
    exact (passage_respects stake).trans (respects_onlyLogged only) (respects_told (apart id about) changed sort) sole

theorem respects_count (apart : id ∉ stake.cells) (delta : Int64) :
    stake.Respects hub ((count id delta).run.run hub).2 :=
  respects_mutation (.count id delta) fun _ about => Option.some.inj about ▸ apart

end Stake

end LeafHub
