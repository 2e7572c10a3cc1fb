import Mathlib.Logic.Relation
import LeafHub.Proofs.Hub.Coherent
import LeafHub.Proofs.Hub.MutationEffect

namespace LeafHub

namespace Payload

theorem flags?_eq_none {payload : Payload} (other : payload.kind ≠ .event) : payload.flags? = none := by
  cases payload with
  | event flags => exact absurd rfl other
  | _ => rfl

theorem exists_flags? {payload : Payload} (event : payload.kind = .event) : ∃ flags, payload.flags? = some flags := by
  cases payload with
  | event flags => exact ⟨flags, rfl⟩
  | _ => cases event

/-- Bits matter to events only. -/
theorem value_of_no_flags {payload : Payload} (without : payload.flags? = none) (bits others : UInt32) :
    payload.value bits = payload.value others := by
  cases payload with
  | event flags => cases without
  | _ => rfl

theorem terminated_ofValue {flags : FlagsId} {value : Value} {stored : Bytes}
    (holds : ofValue flags value = .string stored) : ∃ text, stored = Cell.terminated text := by
  cases value with
  | string text => exact ⟨text, (Payload.string.inj holds).symm⟩
  | _ => cases holds

end Payload

namespace Hub

/-- An elementary change of the cells and the event objects, or something else altogether. -/
inductive CellStep : Hub → Hub → Prop
  | aside {hub after} : after.cells = hub.cells → after.flags = hub.flags → CellStep hub after
  | celled (hub name) (initial : Value) : initial.kind ≠ .event →
      CellStep hub { hub with cells := hub.cells.add ⟨name, initial.kind, .ofValue 0 initial, none⟩ }
  | eventCelled (hub name bits) : CellStep hub { hub with
      flags := hub.flags.add bits
      cells := hub.cells.add ⟨name, .event, .event hub.flags.size, none⟩ }
  | filled (hub id) (value : Value) : value.kind = (hub.cell id).kind →
      ((hub.cell id).payload.kind = .event → value.kind ≠ .event) →
        CellStep hub { hub with cells := hub.cells.set id { hub.cell id with payload := .ofValue 0 value } }
  | counted (hub id before after) : (hub.cell id).payload = .int64 before →
      CellStep hub { hub with cells := hub.cells.set id { hub.cell id with payload := .int64 after } }
  | subscribed (hub id subscriber) :
      CellStep hub { hub with cells := hub.cells.set id { hub.cell id with subscriber } }
  | flagged (hub id bits) : CellStep hub { hub with flags := hub.flags.set id bits }
  | flagsMade (hub bits) : CellStep hub { hub with flags := hub.flags.add bits }

/-- The cells have been changed by elementary changes only. -/
def Recelled : Hub → Hub → Prop :=
  Relation.ReflTransGen CellStep

theorem passage_recelled : Passage Recelled where
  refl := fun _ => .refl
  trans := .trans

theorem recelled_of_same {hub after : Hub} (cells : after.cells = hub.cells) (flags : after.flags = hub.flags) :
    hub.Recelled after :=
  .single (.aside cells flags)

theorem Requeued.recelled {hub after : Hub} (requeued : hub.Requeued after) : hub.Recelled after := by
  obtain ⟨queues, journal, rfl⟩ := requeued
  exact recelled_of_same rfl rfl

theorem frame_recelled : Frame Recelled where
  toPassage := passage_recelled
  noted := fun _ _ _ => recelled_of_same rfl rfl
  told := fun id happening _ hub => (requeued_told id happening hub).recelled
  filled := fun hub id value same apart => .single (.filled hub id value same apart)
  counted := fun hub id before after held => .single (.counted hub id before after held)
  flagged := fun hub id bits => .single (.flagged hub id bits)
  lit := fun _ _ _ _ _ => recelled_of_same rfl rfl
  scheduled := fun hub _ _ cells delay _ => (requeued_schedule cells.scan delay hub).recelled
  pinned := fun _ _ => recelled_of_same rfl rfl
  bussed := fun _ _ => recelled_of_same rfl rfl
  stored := fun _ _ => recelled_of_same rfl rfl
  waited := fun _ _ => recelled_of_same rfl rfl
  celled := fun hub name initial plain => .single (.celled hub name initial plain)
  eventCelled := fun hub name bits => .single (.eventCelled hub name bits)
  subscribed := fun hub id subscriber => .single (.subscribed hub id subscriber)
  flagsMade := fun hub bits => .single (.flagsMade hub bits)
  itemMade := fun _ _ => recelled_of_same rfl rfl
  rescheduled := fun id delay hub => (requeued_reschedule id delay hub).recelled
  cancelled := fun id hub => (requeued_cancel id hub).recelled
  contexted := fun _ _ _ => recelled_of_same rfl rfl
  retained := fun _ _ => recelled_of_same rfl rfl
  released := fun _ _ => recelled_of_same rfl rfl
  listed := fun _ _ _ => recelled_of_same rfl rfl
  catalogued := fun _ _ _ _ _ _ => recelled_of_same rfl rfl

/-- Cells are in form. -/
structure WellFormed (hub : Hub) : Prop where
  coherent : hub.Coherent
  text : ∀ id stored, (hub.cell id).payload = .string stored → ∃ text, stored = Cell.terminated text
  known : ∀ id flags, (hub.cell id).payload.flags? = some flags → flags < hub.flags.size
  apart : ∀ id other flags, (hub.cell id).payload.flags? = some flags →
    (hub.cell other).payload.flags? = some flags → other = id

/-- Every cell is still there, with its name, its kind and the event object it has, if any. -/
structure Continues (hub after : Hub) : Prop where
  size : hub.cells.size ≤ after.cells.size
  name : ∀ id < hub.cells.size, (after.cell id).name = (hub.cell id).name
  kind : ∀ id < hub.cells.size, (after.cell id).kind = (hub.cell id).kind
  flags : ∀ id < hub.cells.size, (after.cell id).payload.flags? = (hub.cell id).payload.flags?

theorem passage_continues : Passage Continues where
  refl := fun _ => ⟨Nat.le_refl _, fun _ _ => rfl, fun _ _ => rfl, fun _ _ => rfl⟩
  trans := fun first second =>
    { size := Nat.le_trans first.size second.size
      name := fun id known => (second.name id (Nat.lt_of_lt_of_le known first.size)).trans (first.name id known)
      kind := fun id known => (second.kind id (Nat.lt_of_lt_of_le known first.size)).trans (first.kind id known)
      flags := fun id known => (second.flags id (Nat.lt_of_lt_of_le known first.size)).trans (first.flags id known) }

theorem cell_set (hub : Hub) (id other : CellId) (cell : Cell) :
    Hub.cell { hub with cells := hub.cells.set id cell } other =
      if other = id ∧ id < hub.cells.size then cell else hub.cell other :=
  Pool.get_set _ _ _ _

/-- A cell of a grown pool is an old one, the new one, or none. -/
theorem cell_add (hub : Hub) (id : CellId) (cell : Cell) (flags : Pool UInt32) :
    Hub.cell { hub with flags, cells := hub.cells.add cell } id =
      if id = hub.cells.size then cell else hub.cell id :=
  Pool.get_add _ _ _

theorem wellFormed_fresh (config : Config) : (fresh config).WellFormed := by
  have nobody (id : CellId) : (fresh config).cell id = default := Pool.get_unknown (Nat.zero_le id)
  refine ⟨coherent_fresh config, fun id stored holds => ?_, fun id flags has => ?_, fun id _ flags has _ => ?_⟩
  · rw [nobody] at holds
    cases holds
  · rw [nobody] at has
    cases has
  · rw [nobody] at has
    cases has

namespace WellFormed

variable {hub : Hub} (sound : hub.WellFormed)

include sound

theorem set {id : CellId} {cell : Cell} (kind : cell.payload.kind = cell.kind)
    (text : ∀ stored, cell.payload = .string stored → ∃ text, stored = Cell.terminated text)
    (flags : cell.payload.flags? = (hub.cell id).payload.flags?) :
    WellFormed { hub with cells := hub.cells.set id cell } := by
  have same (other : CellId) : (Hub.cell { hub with cells := hub.cells.set id cell } other).payload.flags? =
      (hub.cell other).payload.flags? := by
    rw [cell_set]
    split
    · rename_i here
      rw [flags, here.1]
    · rfl
  refine ⟨sound.coherent.set id kind, fun other stored holds => ?_, fun other own has => ?_,
    fun first second own has having => ?_⟩
  · rw [cell_set] at holds
    split at holds
    · exact text stored holds
    · exact sound.text other stored holds
  · rw [same] at has
    exact sound.known other own has
  · rw [same] at has having
    exact sound.apart first second own has having

/-- An event cell that is added must bring its event object along. -/
theorem add {cell : Cell} {flags : Pool UInt32} (kind : cell.payload.kind = cell.kind)
    (text : ∀ stored, cell.payload = .string stored → ∃ text, stored = Cell.terminated text)
    (size : hub.flags.size ≤ flags.size)
    (new : ∀ own, cell.payload.flags? = some own → hub.flags.size ≤ own ∧ own < flags.size) :
    WellFormed { hub with flags, cells := hub.cells.add cell } := by
  refine ⟨sound.coherent.add kind, fun id stored holds => ?_, fun id own has => ?_, fun id other own has having => ?_⟩
  · rw [cell_add] at holds
    split at holds
    · exact text stored holds
    · exact sound.text id stored holds
  · rw [cell_add] at has
    split at has
    · exact (new own has).2
    · exact Nat.lt_of_lt_of_le (sound.known id own has) size
  · rw [cell_add] at has having
    by_cases here : id = hub.cells.size <;> by_cases there : other = hub.cells.size
    · exact there.trans here.symm
    · rw [if_pos here] at has
      rw [if_neg there] at having
      have old := sound.known other own having
      exact absurd old (Nat.not_lt.mpr (new own has).1)
    · rw [if_neg here] at has
      rw [if_pos there] at having
      have old := sound.known id own has
      exact absurd old (Nat.not_lt.mpr (new own having).1)
    · rw [if_neg here] at has
      rw [if_neg there] at having
      exact sound.apart id other own has having

theorem withFlags {flags : Pool UInt32} (size : hub.flags.size ≤ flags.size) : WellFormed { hub with flags } :=
  ⟨sound.coherent, sound.text, fun id own has => Nat.lt_of_lt_of_le (sound.known id own has) size, sound.apart⟩

/-- A value that may fill a cell is no event, because its cell is none. -/
theorem kind_ne_event {id : CellId} {value : Value} (same : value.kind = (hub.cell id).kind)
    (apart : (hub.cell id).payload.kind = .event → value.kind ≠ .event) :
    value.kind ≠ .event ∧ (hub.cell id).payload.kind ≠ .event := by
  have kinds : (hub.cell id).payload.kind = value.kind := (sound.coherent id).trans same.symm
  have other : (hub.cell id).payload.kind ≠ .event := fun event => apart event (kinds ▸ event)
  exact ⟨kinds ▸ other, other⟩

theorem step {after : Hub} (step : CellStep hub after) : after.WellFormed := by
  cases step with
  | aside cells flags =>
    obtain ⟨coherent, text, known, apart⟩ := sound
    unfold Coherent at coherent
    simp only [Hub.cell, ← cells, ← flags] at coherent text known apart
    exact ⟨coherent, text, known, apart⟩
  | celled name initial plain =>
    refine sound.add (by simp) (fun _ => Payload.terminated_ofValue) (Nat.le_refl _) fun own has => ?_
    rw [Payload.flags?_eq_none (by simpa using plain)] at has
    cases has
  | eventCelled name bits =>
    refine sound.add rfl (fun _ text => by cases text) (by simp) fun own has => ?_
    cases has
    simp
  | filled id value same apart =>
    obtain ⟨plain, other⟩ := sound.kind_ne_event same apart
    refine sound.set (by simpa using same) (fun _ => Payload.terminated_ofValue) ?_
    rw [Payload.flags?_eq_none (by simpa using plain), Payload.flags?_eq_none other]
  | counted id before after held =>
    refine sound.set ?_ (fun _ text => by cases text) (by rw [held]; rfl)
    rw [← sound.coherent id, held]
    rfl
  | subscribed id subscriber => exact sound.set (sound.coherent id) (sound.text id) rfl
  | flagged id bits => exact sound.withFlags (by simp)
  | flagsMade bits => exact sound.withFlags (by simp)

end WellFormed

theorem continues_set {hub : Hub} {id : CellId} {cell : Cell} (name : cell.name = (hub.cell id).name)
    (kind : cell.kind = (hub.cell id).kind) (flags : cell.payload.flags? = (hub.cell id).payload.flags?) :
    hub.Continues { hub with cells := hub.cells.set id cell } := by
  have one {β : Type} (part : Cell → β) (same : part cell = part (hub.cell id)) (other : CellId) :
      part (Hub.cell { hub with cells := hub.cells.set id cell } other) = part (hub.cell other) := by
    rw [cell_set]
    split
    · rename_i here
      rw [same, here.1]
    · rfl
  exact
    { size := by simp
      name := fun other _ => one Cell.name name other
      kind := fun other _ => one Cell.kind kind other
      flags := fun other _ => one (fun cell => cell.payload.flags?) flags other }

theorem continues_add (hub : Hub) (cell : Cell) (flags : Pool UInt32) :
    hub.Continues { hub with flags, cells := hub.cells.add cell } := by
  have old {id : CellId} (known : id < hub.cells.size) :
      Hub.cell { hub with flags, cells := hub.cells.add cell } id = hub.cell id := by
    rw [cell_add, if_neg (Nat.ne_of_lt known)]
  exact
    { size := by simp
      name := fun id known => by rw [old known]
      kind := fun id known => by rw [old known]
      flags := fun id known => by rw [old known] }

theorem continues_of_same {hub after : Hub} (cells : after.cells = hub.cells) : hub.Continues after := by
  have same (id : CellId) : after.cell id = hub.cell id := by simp only [Hub.cell, cells]
  exact
    { size := Nat.le_of_eq (by rw [cells])
      name := fun id _ => by rw [same]
      kind := fun id _ => by rw [same]
      flags := fun id _ => by rw [same] }

theorem WellFormed.continues {hub after : Hub} (sound : hub.WellFormed) (step : CellStep hub after) :
    hub.Continues after := by
  cases step with
  | aside cells flags => exact continues_of_same cells
  | celled name initial plain => exact continues_add hub _ hub.flags
  | eventCelled name bits => exact continues_add hub _ _
  | filled id value same apart =>
    obtain ⟨plain, other⟩ := sound.kind_ne_event same apart
    refine continues_set rfl rfl ?_
    rw [Payload.flags?_eq_none (by simpa using plain), Payload.flags?_eq_none other]
  | counted id before after held => exact continues_set rfl rfl (by rw [held]; rfl)
  | subscribed id subscriber => exact continues_set rfl rfl rfl
  | flagged id bits => exact continues_of_same rfl
  | flagsMade bits => exact continues_of_same rfl

/-- Whatever elementary changes are made, cells stay in form and remain what they are. -/
theorem Recelled.keeps {hub after : Hub} (recelled : hub.Recelled after) (sound : hub.WellFormed) :
    after.WellFormed ∧ hub.Continues after := by
  induction recelled with
  | refl => exact ⟨sound, passage_continues.refl hub⟩
  | tail _ step ih =>
    obtain ⟨sound, continues⟩ := ih
    exact ⟨sound.step step, passage_continues.trans continues (sound.continues step)⟩

theorem flagsOf_eq_ok {hub : Hub} {id : CellId} {flags : FlagsId} :
    ((flagsOf id).run.run hub).1 = .ok flags ↔ (hub.cell id).payload.flags? = some flags := by
  rw [run_flagsOf]
  cases (hub.cell id).payload.flags? <;> simp

/-- What can be seen of the form of a cell. Its event object is what it hands out. -/
structure InForm (hub : Hub) (id : CellId) : Prop where
  payload : (hub.cell id).payload.kind = (hub.cell id).kind
  value : (hub.value id).kind = (hub.cell id).kind
  text : ∀ stored, (hub.cell id).payload = .string stored → ∃ text, stored = Text.utf8 text ++ [0] ∧
    (hub.cell id).payload.allocated? = some (text.utf8ByteSize + 1) ∧ hub.value id = .string text
  event : ∀ flags, ((flagsOf id).run.run hub).1 = .ok flags → flags < hub.flags.size ∧
    hub.value id = .event (hub.flags.get flags) ∧ ∀ other, ((flagsOf other).run.run hub).1 = .ok flags → other = id

theorem WellFormed.inForm {hub : Hub} (sound : hub.WellFormed) (id : CellId) : hub.InForm id := by
  refine ⟨sound.coherent id, sound.coherent.kind_value id, fun stored holds => ?_, fun flags has => ?_⟩
  · obtain ⟨text, rfl⟩ := sound.text id stored holds
    refine ⟨text, rfl, ?_, ?_⟩
    · simp [holds, Payload.allocated?, Cell.terminated]
    · simp [Hub.value, holds, Payload.value, Cell.terminated]
  · rw [flagsOf_eq_ok] at has
    refine ⟨sound.known id flags has, ?_, fun other having => ?_⟩
    · have holds := Payload.eq_event_of_flags? has
      rw [Hub.value, has, holds]
      rfl
    · rw [flagsOf_eq_ok] at having
      exact sound.apart id other flags has having

theorem allowsTurns_recelled : AllowsTurns (Act.Keeps Recelled) where
  look := passage_recelled.get
  log := frame_recelled.log
  turn := frame_recelled.takeTurn (fun _ _ _ => recelled_of_same rfl rfl) (fun _ _ _ => recelled_of_same rfl rfl)
  wait := frame_recelled.waitUntil

theorem allowsRequests_recelled : AllowsRequests (Act.Keeps Recelled) where
  make := fun _ => recelled_of_same rfl rfl
  makeItem := frame_recelled.newItem
  submit := fun item hub => (requeued_submit item hub).recelled
  schedule := fun item delay hub => (requeued_schedule item delay hub).recelled
  reschedule := fun item delay hub => (requeued_reschedule item delay hub).recelled
  cancel := fun item hub => (requeued_cancel item hub).recelled
  shutdown := fun _ _ => recelled_of_same rfl rfl
  retain := fun _ _ => recelled_of_same rfl rfl
  release := fun _ _ => recelled_of_same rfl rfl

theorem kind_newCell (hub : Hub) (name : String) (initial : Value) :
    (((newCell name initial).run hub).2.cell ((newCell name initial).run hub).1).kind = initial.kind := by
  have made (hub : Hub) (cell : Cell) (flags : Pool UInt32) :
      Hub.cell { hub with flags, cells := hub.cells.add cell } hub.cells.size = cell :=
    Pool.get_add_new _ _
  unfold newCell
  dsimp only
  split <;> cases initial <;> exact congrArg Cell.kind (made _ _ _)

end Hub

/-- What may be done to cells and to their event objects is allowed. -/
structure AllowsCells (allowed : ∀ {β : Type}, Act β → Prop) : Prop extends AllowsMutations allowed where
  make : ∀ name initial, allowed (Hub.newCell name initial)
  register : ∀ catalogue ids, allowed (Hub.register catalogue ids)
  flagsOf : ∀ id, allowed (Hub.flagsOf id).run
  changeFlags : ∀ flags (change : UInt32 → UInt32), allowed (do
    Hub.setFlags flags (change ((← get).flags.get flags)))
  waitFlags : ∀ flags mask reset limit arrival, allowed (Hub.waitFlags flags mask reset limit arrival)
  waitEvent : ∀ id mask reset limit, allowed (Hub.waitEvent id mask reset limit).run
  subscribe : ∀ id item, allowed (Hub.subscribe id item).run
  unsubscribe : ∀ id, allowed (Hub.unsubscribe id)

theorem Frame.allowsCells {R : Hub → Hub → Prop} (frame : Frame R) : AllowsCells (Act.Keeps R) where
  toAllowsMutations := frame.toConduct.allowsMutations
  make := frame.newCell
  register := frame.register
  flagsOf := frame.flagsOf
  changeFlags := fun flags _ => frame.bind frame.get fun _ => frame.setFlags flags _
  waitFlags := frame.waitFlags
  waitEvent := frame.waitEvent
  subscribe := frame.subscribe
  unsubscribe := frame.unsubscribe

namespace Routine

open Hub

variable {σ α : Type}

theorem recelled_run {app : Application σ} {routine : Routine σ α} (application : app.Uses (Act.Keeps Recelled))
    (uses : routine.Uses (Act.Keeps Recelled)) (world : World σ) (early more : Nat) :
    (routine.run app early world).2.hub.Recelled (routine.run app (early + more) world).2.hub := by
  have bodies := application.body allowsTurns_recelled
  rw [run_add]
  exact (uses.run bodies world early).run_hub passage_recelled (fun keeps => keeps) bodies _ more

theorem wellFormed_run {app : Application σ} {routine : Routine σ α} (application : app.Uses (Act.Keeps Recelled))
    (uses : routine.Uses (Act.Keeps Recelled)) (config : Config) (own : σ) (limit : Nat) :
    (routine.run app limit ⟨fresh config, own⟩).2.hub.WellFormed := by
  have recelled := recelled_run application uses ⟨fresh config, own⟩ 0 limit
  rw [Nat.zero_add] at recelled
  exact (recelled.keeps (wellFormed_fresh config)).1

/-- Whatever an application does to the cells of a hub, in the ways there are and with any interruptions, a cell
keeps its kind from its making on and is in form, and the event object it handed out once is still its own. -/
theorem cells_keep_form {app : Application σ} {routine : Routine σ α} (application : app.Uses (Act.Keeps Recelled))
    (uses : routine.Uses (Act.Keeps Recelled)) (config : Config) (own : σ) :
    AllowsCells (Act.Keeps Recelled) ∧ AllowsRequests (Act.Keeps Recelled) ∧ AllowsTurns (Act.Keeps Recelled) ∧
    (∀ hub name initial,
      (((newCell name initial).run hub).2.cell ((newCell name initial).run hub).1).kind = initial.kind) ∧
    ∀ early more id, id < (routine.run app early ⟨fresh config, own⟩).2.hub.cells.size →
      InForm (routine.run app (early + more) ⟨fresh config, own⟩).2.hub id ∧
      ((routine.run app (early + more) ⟨fresh config, own⟩).2.hub.cell id).kind =
        ((routine.run app early ⟨fresh config, own⟩).2.hub.cell id).kind ∧
      ∀ flags, ((flagsOf id).run.run (routine.run app early ⟨fresh config, own⟩).2.hub).1 = .ok flags →
        ((flagsOf id).run.run (routine.run app (early + more) ⟨fresh config, own⟩).2.hub).1 = .ok flags := by
  refine ⟨frame_recelled.allowsCells, allowsRequests_recelled, allowsTurns_recelled, kind_newCell, ?_⟩
  intro early more id known
  have sound := wellFormed_run application uses config own early
  obtain ⟨later, continues⟩ := (recelled_run application uses ⟨fresh config, own⟩ early more).keeps sound
  refine ⟨later.inForm id, continues.kind id known, fun flags has => ?_⟩
  rw [flagsOf_eq_ok] at has ⊢
  rw [continues.flags id known, has]

/-- Makes a string cell and an event cell, offers the first bytes that are no text, and posts to the second through
its event object. -/
def shape : Routine Unit Unit := do
  let name ← Hub.newCell "name" (.string "pad")
  let event ← Hub.newCell "event" (.event 1)
  let flags ← (Hub.flagsOf event).run
  discard (Hub.storeRaw name [0xFF]).run
  discard (Hub.storeText name "keys").run
  match flags with
  | .ok flags => do
    Hub.setFlags flags (EventFlags.post ((← get).flags.get flags) 4)
  | .error _ => return ()

theorem cells_keep_form_shape :
    InForm (shape.run Application.silent 12 ⟨fresh .standard, ()⟩).2.hub 0 ∧
      (shape.run Application.silent 12 ⟨fresh .standard, ()⟩).2.hub.value 0 = .string "keys" ∧
      ((flagsOf 1).run.run (shape.run Application.silent 12 ⟨fresh .standard, ()⟩).2.hub).1 = .ok 0 ∧
      (shape.run Application.silent 12 ⟨fresh .standard, ()⟩).2.hub.value 1 = .event 5 := by
  have application : Application.Uses (Act.Keeps Recelled) (.silent : Application Unit) := Application.uses_silent
  have cells := frame_recelled.allowsCells
  have uses : shape.Uses (Act.Keeps Recelled) := by
    refine uses_bind (uses_act (cells.make _ _)) fun name => ?_
    refine uses_bind (uses_act (cells.make _ _)) fun event => ?_
    refine uses_bind (uses_act (cells.flagsOf event)) fun flags => ?_
    refine uses_bind (uses_bind (uses_act (cells.storeRaw name _)) fun _ => uses_pure _) fun _ => ?_
    refine uses_bind (uses_bind (uses_act (cells.storeText name _)) fun _ => uses_pure _) fun _ => ?_
    cases flags with
    | ok flags =>
      exact uses_bind (uses_act passage_recelled.get) fun hub => uses_act (frame_recelled.setFlags flags _)
    | error fault => exact uses_pure _
  obtain ⟨_, _, _, _, kept⟩ := cells_keep_form application uses .standard ()
  have first : 0 < (shape.run Application.silent 4 ⟨fresh .standard, ()⟩).2.hub.cells.size := by decide +kernel
  have second : 1 < (shape.run Application.silent 4 ⟨fresh .standard, ()⟩).2.hub.cells.size := by decide +kernel
  obtain ⟨name, _, _⟩ := kept 4 8 0 first
  obtain ⟨event, _, handle⟩ := kept 4 8 1 second
  have own := handle 0 (flagsOf_eq_ok.2 (by decide +kernel))
  exact ⟨name, by decide +kernel, own, by decide +kernel⟩

end Routine

end LeafHub
