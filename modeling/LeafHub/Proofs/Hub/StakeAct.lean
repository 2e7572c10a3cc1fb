import LeafHub.Proofs.Hub.LeafFrame
import LeafHub.Proofs.Hub.Respect

namespace LeafHub

open Hub

variable {σ : Type} {stake : Stake}

/-- What the class or the command of a leaf does, if the leaf is an LED or a keypad. -/
inductive LeafAct (leaf : LeafId) : {β : Type} → Act β → Prop
  | led (phase : Phase) : LeafAct leaf (ledPhase phase leaf).run
  | keypad (phase : Phase) : LeafAct leaf (keypadPhase phase leaf).run
  | ledCommand (args : List String) : LeafAct leaf (ledCommand leaf args)
  | keypadCommand (args : List String) : LeafAct leaf (keypadCommand leaf args)

/-- What may happen while a leaf has a stake. -/
inductive StakeAct (stake : Stake) : {β : Type} → Act β → Prop
  | aside {β : Type} {act : Act β} : act.Keeps stake.Respects → StakeAct stake act
  | turn (queue : QueueId) : StakeAct stake (takeTurn queue)
  | own {β : Type} {act : Act β} : LeafAct stake.leaf act → StakeAct stake act

/-- What is asked of other items, queues, cells and leaves is allowed. Settings are loaded for all cells. -/
structure AllowsOthers (stake : Stake) (allowed : ∀ {β : Type}, Act β → Prop) : Prop where
  submit : ∀ item, item ∉ stake.item? → allowed (Hub.submit item)
  schedule : ∀ item, item ∉ stake.item? → ∀ delay, allowed (Hub.schedule item delay)
  reschedule : ∀ item, item ∉ stake.item? → ∀ delay, allowed (Hub.reschedule item delay)
  cancel : ∀ item, item ∉ stake.item? → allowed (Hub.cancel item)
  make : allowed newQueue
  makeItem : ∀ item : WorkItem, item.handler.leaf? ≠ some stake.leaf → allowed (newItem item)
  shutdown : ∀ queue, queue ≠ ownQueue → allowed (shutdownQueue queue)
  retain : ∀ queue, queue ≠ ownQueue → allowed (retainQueue queue)
  release : ∀ queue, queue ≠ ownQueue → allowed (releaseQueue queue)
  bus : ∀ name bus, allowed (setBus name bus)
  store : ∀ id, id ∉ stake.cells → ∀ value, allowed (Hub.store id value).run
  storeRaw : ∀ id, id ∉ stake.cells → ∀ raw, allowed (Hub.storeRaw id raw).run
  storeText : ∀ id, id ∉ stake.cells → ∀ text, allowed (Hub.storeText id text).run
  count : ∀ id, id ∉ stake.cells → ∀ delta, allowed (Hub.count id delta).run
  post : ∀ id, id ∉ stake.cells → ∀ bits, allowed (Hub.post id bits).run
  writeCharacteristic : ∀ id, id ∉ stake.cells → ∀ data offset limit,
    allowed (Hub.writeCharacteristic id data offset limit).run
  handleSet : ∀ key raw, allowed (Hub.handleSet key raw).run
  loadSettings : ∀ store, allowed (Hub.loadSettings store).run

namespace AllowsOthers

variable {allowed : ∀ {β : Type}, Act β → Prop}

theorem mono {wider : ∀ {β : Type}, Act β → Prop} (allows : AllowsOthers stake allowed)
    (more : ∀ {β : Type} {act : Act β}, allowed act → wider act) : AllowsOthers stake wider where
  submit := fun item apart => more (allows.submit item apart)
  schedule := fun item apart delay => more (allows.schedule item apart delay)
  reschedule := fun item apart delay => more (allows.reschedule item apart delay)
  cancel := fun item apart => more (allows.cancel item apart)
  make := more allows.make
  makeItem := fun item apart => more (allows.makeItem item apart)
  shutdown := fun queue apart => more (allows.shutdown queue apart)
  retain := fun queue apart => more (allows.retain queue apart)
  release := fun queue apart => more (allows.release queue apart)
  bus := fun name bus => more (allows.bus name bus)
  store := fun id apart value => more (allows.store id apart value)
  storeRaw := fun id apart raw => more (allows.storeRaw id apart raw)
  storeText := fun id apart text => more (allows.storeText id apart text)
  count := fun id apart delta => more (allows.count id apart delta)
  post := fun id apart bits => more (allows.post id apart bits)
  writeCharacteristic := fun id apart data offset limit => more (allows.writeCharacteristic id apart data offset limit)
  handleSet := fun key raw => more (allows.handleSet key raw)
  loadSettings := fun store => more (allows.loadSettings store)

/-- Where the stake is in no cell, all cells may be changed. -/
theorem allowsMutations (allows : AllowsOthers stake allowed) (none : stake.cells = []) : AllowsMutations allowed := by
  have apart (id : CellId) : id ∉ stake.cells := none ▸ List.not_mem_nil
  exact
    { store := fun id => allows.store id (apart id)
      storeRaw := fun id => allows.storeRaw id (apart id)
      storeText := fun id => allows.storeText id (apart id)
      count := fun id => allows.count id (apart id)
      post := fun id => allows.post id (apart id)
      writeCharacteristic := fun id => allows.writeCharacteristic id (apart id)
      handleSet := allows.handleSet
      loadSettings := allows.loadSettings }

end AllowsOthers

namespace Stake

theorem allowsOthers_respects (stake : Stake) : AllowsOthers stake (Act.Keeps stake.Respects) where
  submit := fun _ apart => respects_submit apart
  schedule := fun _ apart delay => respects_schedule apart delay
  reschedule := fun _ apart delay => respects_reschedule apart delay
  cancel := fun _ apart => respects_cancel apart
  make := respects_newQueue
  makeItem := fun _ apart => respects_newItem apart
  shutdown := fun _ apart _ => respects_setQueue apart (List.nil_subset _) (List.nil_subset _)
  retain := fun _ apart _ => respects_setQueue apart (List.Subset.refl _) (List.Subset.refl _)
  release := fun _ apart _ => respects_setQueue apart (List.Subset.refl _) (List.Subset.refl _)
  bus := fun _ _ _ => respects_of_same rfl rfl rfl rfl rfl rfl rfl rfl
  store := fun _ apart value _ => respects_store apart value
  storeRaw := fun _ apart raw _ => keeps_storeRaw (passage_respects stake) (respects_store apart) raw
  storeText := fun _ apart text _ => respects_storeText apart text
  count := fun _ apart delta _ => respects_count apart delta
  post := fun id apart bits _ => respects_mutation (.post id bits) fun _ about => Option.some.inj about ▸ apart
  writeCharacteristic := fun id apart data offset limit _ =>
    respects_mutation (.writeCharacteristic id data offset limit) fun _ about => Option.some.inj about ▸ apart
  handleSet := (housekeeping stake).handleSet
  loadSettings := (housekeeping stake).loadSettings

theorem allowsOthers_stakeAct (stake : Stake) : AllowsOthers stake (StakeAct stake) :=
  (allowsOthers_respects stake).mono .aside

theorem allowsTurns_stakeAct (stake : Stake) : AllowsTurns (StakeAct stake) where
  look := .aside (passage_respects stake).get
  log := fun level line => .aside (respects_log level line)
  turn := .turn
  wait := fun time => .aside (respects_waitUntil time)

theorem stakeAct_ledPhase (phase : Phase) (id : LeafId) : StakeAct stake (ledPhase phase id).run := by
  by_cases own : id = stake.leaf
  · exact own ▸ .own (.led phase)
  · exact .aside (respects_ledPhase own phase)

theorem stakeAct_keypadPhase (phase : Phase) (id : LeafId) : StakeAct stake (keypadPhase phase id).run := by
  by_cases own : id = stake.leaf
  · exact own ▸ .own (.keypad phase)
  · exact .aside (respects_keypadPhase own phase)

theorem stakeAct_ledCommand (id : LeafId) (args : List String) : StakeAct stake (ledCommand id args) := by
  by_cases own : id = stake.leaf
  · exact own ▸ .own (.ledCommand args)
  · exact .aside (respects_ledCommand own args)

theorem stakeAct_keypadCommand (id : LeafId) (args : List String) : StakeAct stake (keypadCommand id args) := by
  by_cases own : id = stake.leaf
  · exact own ▸ .own (.keypadCommand args)
  · exact .aside (respects_keypadCommand own args)

theorem allows_stakeAct (stake : Stake) :
    Routine.Allows σ stake.Respects (· ∉ stake.names) (StakeAct stake) where
  toLogging := (cataloguing stake).toLogging
  quiet := .aside
  registerClass := fun leafClass => .aside ((cataloguing stake).registering.registerClass leafClass)
  bootInitialise := .aside (cataloguing stake).registering.bootInitialise
  shellBoot := .aside (cataloguing stake).registering.shellBoot
  retained := respects_retain
  released := respects_release
  valued := respects_setValue
  beginInit := fun id => .aside (respects_beginInit id)
  endInit := fun id outcome => .aside (respects_endInit id outcome)
  endStart := fun id outcome => .aside (respects_endStart id outcome)
  endStop := fun id outcome => .aside (respects_endStop id outcome)
  calls := fun phase id => by
    unfold Routine.callClass
    refine Routine.uses_bind (Routine.uses_act (.aside (passage_respects stake).get)) fun hub => ?_
    split
    · exact Routine.uses_pure _
    · exact Routine.uses_act (stakeAct_ledPhase phase id)
    · exact Routine.uses_act (stakeAct_keypadPhase phase id)
    · exact Routine.uses_act (.aside ((regime stake).settingsPhase phase id))
    · exact Routine.uses_ofCall _
  commands := fun command args => by
    unfold Routine.runCommand
    split
    · exact Routine.uses_pure _
    · exact Routine.uses_act (stakeAct_ledCommand _ args)
    · exact Routine.uses_act (stakeAct_keypadCommand _ args)
    · exact Routine.uses_act (.aside ((housekeeping stake).settingsLeafCommand _ args))
    · exact Routine.uses_ofCall _

theorem lives_stakeAct (stake : Stake) :
    Routine.Lives (· ∉ stake.names) (Routine.Uses (StakeAct stake) : ∀ {α : Type}, Routine σ α → Prop) :=
  (allows_stakeAct stake).parts.lives

end Stake

end LeafHub
