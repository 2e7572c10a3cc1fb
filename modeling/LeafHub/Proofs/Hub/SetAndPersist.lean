import LeafHub.Hub.SettingsLeaf
import LeafHub.Proofs.Hub.AllOrNothing
import LeafHub.Proofs.Hub.Port

namespace LeafHub

namespace Hub

/-- The cell holds another value, and its subscriber was submitted once after that. -/
def Told (hub : Hub) (id : CellId) (value : Value) (told : Hub) : Prop :=
  ∃ written, hub.Wrote id value written ∧ told = match (hub.cell id).subscriber with
    | some item => ((submit item).run written).2
    | none => written

namespace Told

variable {hub told : Hub} {id : CellId} {value : Value} (tells : hub.Told id value told)

include tells

theorem requeued : ∃ written, hub.Wrote id value written ∧ written.Requeued told := by
  obtain ⟨written, wrote, rfl⟩ := tells
  refine ⟨written, wrote, ?_⟩
  split
  · exact requeued_submit _ written
  · exact passage_requeued.refl written

theorem values : told.value id = value ∧ ∀ other, other ≠ id → told.value other = hub.value other := by
  obtain ⟨written, wrote, requeued⟩ := tells.requeued
  have same := requeued.sameSettings.value
  exact ⟨(same id).trans wrote.value, fun other apart => (same other).trans (wrote.others other apart).2⟩

theorem cell : ∃ payload, told.cell id = { hub.cell id with payload } := by
  obtain ⟨written, wrote, requeued⟩ := tells.requeued
  obtain ⟨payload, own⟩ := wrote.cell
  exact ⟨payload, (requeued.sameSettings.cell id).trans own⟩

theorem elsewhere : told.media = hub.media ∧ told.settingsNamespace = hub.settingsNamespace := by
  obtain ⟨written, wrote, queues, journal, rfl⟩ := tells.requeued
  obtain ⟨cells, flags, rest⟩ := wrote.rest
  rw [rest]
  exact ⟨rfl, rfl⟩

end Told

/-- A text is taken over completely or not at all. -/
theorem WellFormed.run_storeText {hub : Hub} (sound : hub.WellFormed) {id : CellId} (known : id < hub.cells.size)
    (text : String) : match (hub.cell id).kind.ofText text with
      | .error fault => (storeText id text).run.run hub = (.error fault, hub)
      | .ok value => ∃ told, (storeText id text).run.run hub = (.ok (), told) ∧ hub.Told id value told := by
  rw [Hub.run_storeText]
  cases read : (hub.cell id).kind.ofText text with
  | error fault => rfl
  | ok value =>
    have sort : value.kind = (hub.cell id).kind := Kind.kind_ofText read
    have changed : (Happening.stored id (hub.cell id).name value).changed? = some id := rfl
    have wrote := sound.wrote_putNoted known sort changed
    obtain ⟨payload, cell⟩ := wrote.cell
    have notified := run_notify (hub.putNoted id value (.stored id (hub.cell id).name value)) id
    rw [cell] at notified
    exact ⟨_, (run_store hub id value).trans (if_neg (not_not_intro sort)), _, wrote, notified⟩

end Hub

open Hub

namespace Port

/-- Writes the current value of a setting. -/
def persist (port : Port) (id : CellId) : Attempt Unit := do
  let hub ← get
  if (hub.cell id).kind = .event then throw .typeMismatch
  match ← port.ask hub.settingsNamespace (hub.cell id).name (hub.value id).raw with
  | .ok () => return ()
  | .error fault => throw (.storage fault)

/-- Stores what an operator typed and writes it at once. -/
def setAndPersist (port : Port) (id : CellId) (text : String) : Attempt Unit := do
  storeText id text
  try port.persist id
  catch fault =>
    let hub ← get
    log .error s!"Setting save failed for {hub.storageKey (hub.cell id).name}: {fault.message}"
    throw fault

/-- Stores and writes what an operator typed for the first setting of a name. -/
def setSetting (port : Port) (name : String) (words : List String) : Act CommandResult := do
  match (← get).findSetting name with
  | none => return ⟨Fault.notFound.errno, s!"No setting named '{name}'\n"⟩
  | some id =>
    match ← (port.setAndPersist id (" ".intercalate words)).run with
    | .ok () => return .ofText s!"updated: {(← get).describe id}\n"
    | .error fault =>
      return ⟨Fault.invalidValue.errno, s!"Setting update failed for '{name}': error {fault.errno}\n"⟩

theorem persist_ofMedium (store : String) (id : CellId) : (ofMedium store).persist id = Hub.persist id store := by
  unfold persist Hub.persist
  exact ask_ofMedium store ▸ rfl

theorem setAndPersist_ofMedium (store : String) (id : CellId) (text : String) :
    (ofMedium store).setAndPersist id text = Hub.setAndPersist id text store := by
  unfold setAndPersist Hub.setAndPersist
  rw [persist_ofMedium]

/-- The command sets and writes in this way. -/
theorem setSetting_ofMedium (store name word : String) (words : List String) :
    (ofMedium store).setSetting name (word :: words) = settingCommand store ("set" :: name :: word :: words) := by
  show _ = Hub.setSetting store name (word :: words)
  have asks : (ofMedium store).setAndPersist = fun id text => Hub.setAndPersist id text store := by
    funext id text
    exact setAndPersist_ofMedium store id text
  unfold setSetting Hub.setSetting
  exact asks ▸ rfl

/-- The write of a setting with this value. -/
def writing (port : Port) (hub : Hub) (id : CellId) (value : Value) : Except StorageFault Unit × Directory Medium :=
  port.write hub.settingsNamespace (hub.cell id).name value.raw hub.media

/-- The cell holds the value and its subscriber was submitted once; beside that the media are these, and lines in the
log may be new. -/
structure Took (hub : Hub) (id : CellId) (value : Value) (media : Directory Medium) (after : Hub) : Prop where
  own : after.value id = value
  others : ∀ other, other ≠ id → after.value other = hub.value other
  told : ∃ told, hub.Told id value told ∧ told.OnlyMedia media after

/-- What may come of setting a cell from text and writing it at once. -/
inductive Persists (port : Port) (hub : Hub) (id : CellId) (text : String) : Except Fault Unit → Hub → Prop
  | unread {fault} : (hub.cell id).kind.ofText text = .error fault → Persists port hub id text (.error fault) hub
  | event {value after} : (hub.cell id).kind.ofText text = .ok value → (hub.cell id).kind = .event →
      Took hub id value hub.media after → Persists port hub id text (.error .typeMismatch) after
  | refused {value fault after} : (hub.cell id).kind.ofText text = .ok value → (hub.cell id).kind ≠ .event →
      (port.writing hub id value).1 = .error fault → Took hub id value (port.writing hub id value).2 after →
        port.bindings after.media = port.bindings hub.media → Persists port hub id text (.error (.storage fault)) after
  | granted {value after} : (hub.cell id).kind.ofText text = .ok value → (hub.cell id).kind ≠ .event →
      (port.writing hub id value).1 = .ok () → Took hub id value (port.writing hub id value).2 after →
        port.bindings after.media =
          (port.bindings hub.media).after (.write hub.settingsNamespace (hub.cell id).name value.raw) →
            Persists port hub id text (.ok ()) after

theorem took_of_told {hub told after : Hub} {id : CellId} {value : Value} {media : Directory Medium}
    (tells : hub.Told id value told) (only : told.OnlyMedia media after) : Took hub id value media after := by
  obtain ⟨own, others⟩ := tells.values
  have same := only.sameSettings.value
  exact ⟨(same id).trans own, fun other apart => (same other).trans (others other apart), told, tells, only⟩

theorem run_persist (port : Port) (hub : Hub) (id : CellId) : (port.persist id).run.run hub =
    if (hub.cell id).kind = .event then (.error .typeMismatch, hub)
    else ((port.writing hub id (hub.value id)).1.mapError .storage, hub.withMedia (port.writing hub id (hub.value id)).2
      (port.lines hub.settingsNamespace (hub.cell id).name (hub.value id).raw hub.media)) := by
  unfold persist
  rw [Attempt.run_bind_of (Attempt.run_get hub)]
  split
  · rfl
  · rw [Attempt.run_lift_of (run_ask port _ _ _ hub)]
    show _ = (Except.mapError Fault.storage (port.write _ _ _ _).1, _)
    cases (port.write hub.settingsNamespace (hub.cell id).name (hub.value id).raw hub.media).1 <;> rfl

/-- After the value was taken over, the outcome is that of the write, with a line about a failure. -/
theorem run_setAndPersist (port : Port) {hub told : Hub} {id : CellId} {text : String}
    (took : (storeText id text).run.run hub = (.ok (), told)) : ∃ lines, (port.setAndPersist id text).run.run hub =
      (((port.persist id).run.run told).1, ((port.persist id).run.run told).2.withLines lines) := by
  unfold setAndPersist
  rw [Attempt.run_bind_of took, Attempt.run_tryCatch]
  generalize (port.persist id).run.run told = outcome
  obtain ⟨result, after⟩ := outcome
  cases result with
  | ok done => exact ⟨[], congrArg (Prod.mk _) (withLines_nil after).symm⟩
  | error fault => exact ⟨_, congrArg (Prod.mk _) (congrArg Prod.snd (run_log after _ _))⟩

/-- The outcome of setting and writing is known from the text, the kind and the answer to the write. -/
theorem setAndPersist_persists (port : Port) {hub : Hub} (formed : hub.WellFormed) (sound : port.Sound hub.media)
    {id : CellId} (known : id < hub.cells.size) (text : String) :
    port.Persists hub id text ((port.setAndPersist id text).run.run hub).1
      ((port.setAndPersist id text).run.run hub).2 := by
  have stored := formed.run_storeText known text
  cases read : (hub.cell id).kind.ofText text with
  | error fault =>
    rw [read] at stored
    have done : (port.setAndPersist id text).run.run hub = (.error fault, hub) := by
      unfold setAndPersist
      rw [Attempt.run_bind, stored]
    rw [done]
    exact .unread read
  | ok value =>
    rw [read] at stored
    obtain ⟨told, took, tells⟩ := stored
    obtain ⟨lines, done⟩ := port.run_setAndPersist took
    obtain ⟨payload, cell⟩ := tells.cell
    obtain ⟨media, space⟩ := tells.elsewhere
    have wrote : port.writing told id (told.value id) = port.writing hub id value := by
      unfold writing
      rw [space, cell, tells.values.1, media]
    rw [run_persist, wrote, cell] at done
    rw [done]
    dsimp only
    split
    · rename_i event
      refine .event read event (took_of_told tells ?_)
      rw [← media]
      exact onlyMedia_withLines told lines
    · rename_i plain
      have only := (onlyMedia_withMedia told (port.writing hub id value).2 (port.lines told.settingsNamespace
        (hub.cell id).name (told.value id).raw told.media)).logged lines
      have took := took_of_told tells only
      cases answer : (port.writing hub id value).1 with
      | ok granted =>
        exact .granted read plain answer took ((congrArg port.bindings only.media).trans (port.granted sound answer))
      | error fault =>
        exact .refused read plain answer took ((congrArg port.bindings only.media).trans (port.refused sound answer))

/-- The command sets and writes the first setting of the name, and its code says whether all went well. -/
inductive Commands (port : Port) (hub : Hub) (name : String) (words : List String) : CommandResult → Hub → Prop
  | absent {output} : hub.findSetting name = none → Commands port hub name words ⟨-2, output⟩ hub
  | failed {id fault after output} : hub.findSetting name = some id →
      port.Persists hub id (" ".intercalate words) (.error fault) after →
        Commands port hub name words ⟨-22, output⟩ after
  | updated {id after output} : hub.findSetting name = some id →
      port.Persists hub id (" ".intercalate words) (.ok ()) after → Commands port hub name words ⟨0, output⟩ after

theorem run_setSetting (port : Port) {hub : Hub} (formed : hub.WellFormed) (sound : port.Sound hub.media)
    (known : ∀ id ∈ hub.settingList, id < hub.cells.size) (name : String) (words : List String) :
    port.Commands hub name words ((port.setSetting name words).run hub).1 ((port.setSetting name words).run hub).2 := by
  unfold setSetting
  rw [Act.run_bind_of (Act.run_get hub)]
  cases found : hub.findSetting name with
  | none => exact .absent found
  | some id =>
    have persists := port.setAndPersist_persists formed sound (known id (mem_settingList found)) (" ".intercalate words)
    dsimp only
    rw [StateT.run_bind]
    generalize (port.setAndPersist id (" ".intercalate words)).run.run hub = outcome at persists
    obtain ⟨result, after⟩ := outcome
    cases result with
    | ok done => exact .updated found persists
    | error fault => exact .failed found persists

/-- On every port, what is typed for a cell is taken over, written and reported in one of four ways; and a store of the
hub is such a port, which the command of the settings writes to in this way. Cells are in form in every hub that an
application makes. -/
theorem setAndPersist_outcomes :
    (∀ store id text, (ofMedium store).setAndPersist id text = Hub.setAndPersist id text store) ∧
    (∀ store name word words,
      (ofMedium store).setSetting name (word :: words) = settingCommand store ("set" :: name :: word :: words)) ∧
    ∀ (port : Port) (hub : Hub), hub.WellFormed → port.Sound hub.media →
      (∀ id < hub.cells.size, ∀ text, port.Persists hub id text ((port.setAndPersist id text).run.run hub).1
        ((port.setAndPersist id text).run.run hub).2) ∧
      ((∀ id ∈ hub.settingList, id < hub.cells.size) → ∀ name words,
        port.Commands hub name words ((port.setSetting name words).run hub).1
          ((port.setSetting name words).run hub).2) := by
  refine ⟨setAndPersist_ofMedium, setSetting_ofMedium, fun port hub formed sound => ⟨fun id known text => ?_, ?_⟩⟩
  · exact port.setAndPersist_persists formed sound known text
  · exact fun known name words => port.run_setSetting formed sound known name words

/-- Makes a watched setting. -/
def watched : Act Unit := do
  let item ← newItem ⟨"watcher", .custom 0, ownQueue⟩
  let id ← addSetting "n" (.byte 1)
  discard (subscribe id item).run

/-- A watched setting, and a store that refuses every write. -/
def jammed : Hub :=
  { (watched.run (fresh .standard)).2 with
    media := [("nvs", { Medium.empty with plan := { FaultPlan.none with write := fun _ _ => some .full } })] }

theorem wellFormed_jammed : jammed.WellFormed := by
  have recelled : Act.Keeps Recelled watched := by
    refine passage_recelled.bind (frame_recelled.newItem _) fun item => ?_
    refine passage_recelled.bind (frame_recelled.addSetting _ _) fun id => ?_
    exact Passage.discard (frame_recelled.subscribe id item)
  exact ((recelled (fresh .standard)).keeps (wellFormed_fresh .standard)).1.step (.aside rfl rfl)

/-- The operator is told of the failure, the setting has the new value and the store is empty as before. -/
theorem setAndPersist_outcomes_jammed : ((settingCommand "nvs" ["set", "n", "7"]).run jammed).1.code = -22 ∧
    ((settingCommand "nvs" ["set", "n", "7"]).run jammed).2.value 0 = .byte 7 ∧
    (ofMedium "nvs").bindings ((settingCommand "nvs" ["set", "n", "7"]).run jammed).2.media "app" "n" = none := by
  have sound : (ofMedium "nvs").Sound jammed.media := Store.Sound.empty
  have known : ∀ id ∈ jammed.settingList, id < jammed.cells.size := by decide +kernel
  obtain ⟨_, same, outcomes⟩ := setAndPersist_outcomes
  have commands := (outcomes (ofMedium "nvs") jammed wellFormed_jammed sound).2 known "n" ["7"]
  rw [same] at commands
  have found : jammed.findSetting "n" = some 0 := by decide +kernel
  have reads : (jammed.cell 0).kind.ofText (" ".intercalate ["7"]) = .ok (.byte 7) := by decide +kernel
  have answers : ((ofMedium "nvs").writing jammed 0 (.byte 7)).1 = .error .full := by decide +kernel
  generalize (settingCommand "nvs" ["set", "n", "7"]).run jammed = outcome at commands
  obtain ⟨result, after⟩ := outcome
  cases commands with
  | absent nobody =>
    rw [found] at nobody
    cases nobody
  | updated other persists =>
    cases found.symm.trans other
    cases persists with
    | granted read _ granted =>
      cases reads.symm.trans read
      cases answers.symm.trans granted
  | failed other persists =>
    cases found.symm.trans other
    cases persists with
    | unread read => cases reads.symm.trans read
    | event _ event => exact absurd event (by decide +kernel)
    | refused read _ _ took held =>
      cases reads.symm.trans read
      refine ⟨rfl, took.own, ?_⟩
      rw [held]
      rfl

end Port

end LeafHub
