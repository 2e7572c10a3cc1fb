import LeafHub.Proofs.Hub.CellForm
import LeafHub.Proofs.Hub.Granted

namespace LeafHub

namespace Hub

/-- Exactly one cell was written and one note was taken of it, maybe after some lines in the log. Nobody has been told
yet. -/
structure Wrote (hub : Hub) (id : CellId) (value : Value) (written : Hub) : Prop where
  value : written.value id = value
  cell : ∃ payload, written.cell id = { hub.cell id with payload }
  others : ∀ other, other ≠ id → written.cell other = hub.cell other ∧ written.value other = hub.value other
  noted : ∃ lines happening, happening.changed? = some id ∧
    written.journal = (hub.withLines lines).journal.push happening
  rest : ∃ cells flags, written = { hub with cells, flags, journal := written.journal }

namespace Wrote

variable {hub written : Hub} {id : CellId} {value : Value} (wrote : hub.Wrote id value written)

include wrote

theorem leaves : written.leaves = hub.leaves := by
  obtain ⟨_, _, rest⟩ := wrote.rest
  rw [rest]

theorem settingList : written.settingList = hub.settingList := by
  obtain ⟨_, _, rest⟩ := wrote.rest
  rw [rest]

theorem items : written.items = hub.items := by
  obtain ⟨_, _, rest⟩ := wrote.rest
  rw [rest]

theorem queues : written.queues = hub.queues := by
  obtain ⟨_, _, rest⟩ := wrote.rest
  rw [rest]

theorem pins : written.pins = hub.pins := by
  obtain ⟨_, _, rest⟩ := wrote.rest
  rw [rest]

/-- At most the payload of a cell is another one. -/
theorem anyCell (other : CellId) : ∃ payload, written.cell other = { hub.cell other with payload } := by
  by_cases here : other = id
  · exact here ▸ wrote.cell
  · exact ⟨(hub.cell other).payload, (wrote.others other here).1⟩

theorem name (other : CellId) : (written.cell other).name = (hub.cell other).name := by
  obtain ⟨_, same⟩ := wrote.anyCell other
  rw [same]

theorem subscriber (other : CellId) : (written.cell other).subscriber = (hub.cell other).subscriber := by
  obtain ⟨_, same⟩ := wrote.anyCell other
  rw [same]

end Wrote

/-- Lines in the log before a write do not matter. -/
theorem OnlyLogged.wrote {hub started written : Hub} {id : CellId} {value : Value} (only : hub.OnlyLogged started)
    (wrote : started.Wrote id value written) : hub.Wrote id value written := by
  obtain ⟨lines, rfl⟩ := only
  obtain ⟨more, happening, changed, journal⟩ := wrote.noted
  rw [← withLines_append] at journal
  exact ⟨wrote.value, wrote.cell, wrote.others, ⟨lines ++ more, happening, changed, journal⟩, wrote.rest⟩

theorem OnlyLogged.wellFormed {hub after : Hub} (only : hub.OnlyLogged after) (sound : hub.WellFormed) :
    after.WellFormed := by
  obtain ⟨lines, rfl⟩ := only
  exact sound.step (.aside rfl rfl)

/-- A value that is no event goes into its cell. -/
theorem wrote_cell {hub : Hub} {id : CellId} (known : id < hub.cells.size) {value : Value} (plain : value.kind ≠ .event)
    {happening : Happening} (changed : happening.changed? = some id) :
    hub.Wrote id value (hub.putNoted id value happening) := by
  rw [putNoted, put_of_other plain]
  have there (other : CellId) : Hub.cell { hub with
      cells := hub.cells.set id { hub.cell id with payload := .ofValue 0 value }
      journal := hub.journal.push happening } other =
        if other = id ∧ id < hub.cells.size then { hub.cell id with payload := .ofValue 0 value }
        else hub.cell other := cell_set hub id other _
  have own := (there id).trans (if_pos ⟨rfl, known⟩)
  refine ⟨?_, ⟨.ofValue 0 value, own⟩, fun other apart => ?_, ⟨[], happening, changed, by simp [withLines]⟩,
    ⟨_, hub.flags, rfl⟩⟩
  · rw [Hub.value, own]
    refine Payload.value_ofValue 0 fun bits event => ?_
    rw [event] at plain
    exact absurd rfl plain
  · have same := (there other).trans (if_neg fun here => apart here.1)
    exact ⟨same, by rw [Hub.value, same]; rfl⟩

namespace WellFormed

variable {hub : Hub} (sound : hub.WellFormed)

include sound

/-- Bits go into the event object of their cell, which no other cell has. -/
theorem wrote_flags {id : CellId} {flags : FlagsId} (has : (hub.cell id).payload.flags? = some flags) (bits : UInt32)
    {happening : Happening} (changed : happening.changed? = some id) :
    hub.Wrote id (.event bits) (hub.putNoted id (.event bits) happening) := by
  rw [putNoted, put_of_flags has]
  have shows (other : CellId) : Hub.value { hub with
      flags := hub.flags.set flags bits
      journal := hub.journal.push happening } other = (hub.cell other).payload.value
        ((hub.flags.set flags bits).get ((hub.cell other).payload.flags?.getD 0)) := rfl
  refine ⟨?_, ⟨(hub.cell id).payload, rfl⟩, fun other apart => ⟨rfl, ?_⟩,
    ⟨[], happening, changed, by simp [withLines]⟩, ⟨hub.cells, _, rfl⟩⟩
  · rw [shows, has, Payload.eq_event_of_flags? has]
    exact congrArg Value.event (Pool.get_set_same (sound.known id flags has) bits)
  · rw [shows, Hub.value]
    cases having : (hub.cell other).payload.flags? with
    | none => rw [Payload.value_of_no_flags having _ (hub.flags.get ((none : Option FlagsId).getD 0))]
    | some others =>
      have distinct : others ≠ flags := by
        rintro rfl
        exact apart (sound.apart id other others has having)
      exact congrArg (Payload.value · _) (Pool.get_set_other distinct bits)

theorem wrote_putNoted {id : CellId} (known : id < hub.cells.size) {value : Value}
    (sort : value.kind = (hub.cell id).kind) {happening : Happening} (changed : happening.changed? = some id) :
    hub.Wrote id value (hub.putNoted id value happening) := by
  by_cases plain : value.kind = .event
  · cases value with
    | event bits =>
      have event : (hub.cell id).payload.kind = .event := (sound.coherent id).trans sort.symm
      obtain ⟨flags, has⟩ := Payload.exists_flags? event
      exact sound.wrote_flags has bits changed
    | _ => cases plain
  · exact wrote_cell known plain changed

/-- A mutation asks for a value of the cell's kind. -/
theorem kind_value? {mutation : Mutation} {id : CellId} {value : Value}
    (asks : mutation.value? hub id = some value) : value.kind = (hub.cell id).kind := by
  have kind := sound.coherent.kind_value id
  have read {ε : Type} {attempt : Except ε Value} (some : attempt.toOption = some value) : attempt = .ok value := by
    cases attempt with
    | ok other => exact congrArg _ (Option.some.inj some)
    | error fault => cases some
  cases mutation with
  | store _ own =>
    rw [Mutation.value?] at asks
    split at asks
    · rename_i same
      cases asks
      exact same
    · cases asks
  | storeRaw _ raw => exact Kind.kind_ofRaw (read asks)
  | storeText _ text => exact Kind.kind_ofText (read asks)
  | count _ delta =>
    rw [Mutation.value?] at asks
    split at asks
    · rename_i now
      cases asks
      rw [now] at kind
      exact kind
    · cases asks
  | post _ bits =>
    rw [Mutation.value?] at asks
    split at asks
    · rename_i now
      cases asks
      rw [now] at kind
      exact kind
    · cases asks
  | writeCharacteristic _ data offset limit => exact kind_spliced (read asks)
  | handleSet key raw =>
    rw [Mutation.value?] at asks
    split at asks
    · cases asks
    · exact Kind.kind_ofRaw (read asks)

end WellFormed

/-- A cell that is there, with a value of its kind. -/
structure Shows (hub : Hub) (id : CellId) (value : Value) : Prop where
  known : id < hub.cells.size
  kind : (hub.cell id).kind = value.kind
  value : hub.value id = value

theorem Coherent.shows {hub : Hub} (coherent : hub.Coherent) {id : CellId} (known : id < hub.cells.size) :
    hub.Shows id (hub.value id) :=
  ⟨known, (coherent.kind_value id).symm, rfl⟩

theorem Requeued.shows {hub after : Hub} (requeued : hub.Requeued after) {id : CellId} {value : Value}
    (shows' : hub.Shows id value) : after.Shows id value := by
  obtain ⟨queues, journal, rfl⟩ := requeued
  exact ⟨shows'.known, shows'.kind, shows'.value⟩

/-- A value of the kind of a cell that is no event cell can be stored, and shows. -/
theorem Shows.run_store {hub : Hub} {id : CellId} {old new : Value} (shows' : hub.Shows id old)
    (sort : new.kind = old.kind) (plain : new.kind ≠ .event) :
    ∃ after, (store id new).run.run hub = (.ok (), after) ∧ after.Shows id new := by
  have same : new.kind = (hub.cell id).kind := sort.trans shows'.kind.symm
  have changed : (Happening.stored id (hub.cell id).name new).changed? = some id := rfl
  have wrote := wrote_cell shows'.known plain changed
  have written : (hub.putNoted id new (.stored id (hub.cell id).name new)).Shows id new := by
    obtain ⟨payload, cell⟩ := wrote.cell
    refine ⟨?_, ?_, wrote.value⟩
    · rw [putNoted, put_of_other plain]
      simpa using shows'.known
    · rw [cell]
      exact same.symm
  refine ⟨_, ?_, (requeued_notify id _).shows written⟩
  rw [Hub.run_store, if_neg (not_not_intro same)]

/-- A mutation is granted when it asks for a value that it may ask for, or passes a key over. Refused, it leaves no
trace but lines in the log. Granted, it writes the value, and then the subscriber is submitted once: its queue takes
it if somebody owns the queue, it is open and the subscriber is not pending. -/
structure AllOrNothing (hub : Hub) (mutation : Mutation) : Prop where
  granted_iff : (mutation.run.run hub).1 = true ↔
    mutation.PassesOver hub ∨ ∃ id, mutation.cell? hub = some id ∧ (mutation.value? hub id).isSome
  refused : (mutation.run.run hub).1 = false → hub.OnlyLogged (mutation.run.run hub).2
  granted : (mutation.run.run hub).1 = true →
    (mutation.PassesOver hub ∧ hub.OnlyLogged (mutation.run.run hub).2) ∨
      ∃ id value written, mutation.cell? hub = some id ∧ mutation.value? hub id = some value ∧
        hub.Wrote id value written ∧
        ((mutation.run.run hub).2 = match (hub.cell id).subscriber with
          | some item => ((submit item).run written).2
          | none => written) ∧
        ∀ item, (hub.cell id).subscriber = some item → written.Submitted item (mutation.run.run hub).2

theorem WellFormed.allOrNothing {hub : Hub} (sound : hub.WellFormed) (mutation : Mutation)
    (known : ∀ id, mutation.cell? hub = some id → id < hub.cells.size) : hub.AllOrNothing mutation := by
  have effect := hub.effect mutation
  generalize outcome : (mutation.run.run hub).1 = granted at effect
  generalize reached : (mutation.run.run hub).2 = after at effect
  cases effect with
  | refused strict refuses only =>
    refine ⟨?_, fun _ => reached ▸ only, fun granted => ?_⟩
    · rw [outcome]
      refine ⟨nofun, fun may => ?_⟩
      obtain passes | ⟨id, about, asks⟩ := may
      · exact absurd passes strict
      · rw [refuses id about] at asks
        cases asks
    · rw [outcome] at granted
      cases granted
  | passedOver passes only =>
    refine ⟨by simp [outcome, passes], fun refused => ?_, fun _ => .inl ⟨passes, reached ▸ only⟩⟩
    rw [outcome] at refused
    cases refused
  | @granted id value happening started about asks changed only =>
    have wrote : hub.Wrote id value (started.putNoted id value happening) := by
      have there : id < started.cells.size := by
        rw [only.cells]
        exact known id about
      have sort : value.kind = (started.cell id).kind := by
        rw [Hub.cell, only.cells]
        exact sound.kind_value? asks
      exact only.wrote ((only.wellFormed sound).wrote_putNoted there sort changed)
    have told : (mutation.run.run hub).2 = match (hub.cell id).subscriber with
        | some item => ((submit item).run (started.putNoted id value happening)).2
        | none => started.putNoted id value happening := by
      obtain ⟨payload, cell⟩ := wrote.cell
      have notified := run_notify (started.putNoted id value happening) id
      rw [cell] at notified
      exact reached.trans notified
    refine ⟨?_, fun refused => ?_, fun _ => .inr ⟨id, value, _, about, asks, wrote, told, fun item subscribed => ?_⟩⟩
    · rw [outcome]
      exact ⟨fun _ => .inr ⟨id, about, by rw [asks]; rfl⟩, fun _ => rfl⟩
    · rw [outcome] at refused
      cases refused
    · rw [told, subscribed]
      exact submitted_submit _ item

end Hub

namespace Routine

open Hub

variable {σ α : Type}

/-- In every hub that an application makes out of a new one, every mutation of a cell that is there is carried out
completely or not at all. -/
theorem mutation_all_or_nothing {app : Application σ} {routine : Routine σ α}
    (application : app.Uses (Act.Keeps Recelled)) (uses : routine.Uses (Act.Keeps Recelled)) (config : Config) (own : σ)
    (limit : Nat) (mutation : Mutation)
    (known : ∀ id, mutation.cell? (routine.run app limit ⟨fresh config, own⟩).2.hub = some id →
      id < (routine.run app limit ⟨fresh config, own⟩).2.hub.cells.size) :
    AllOrNothing (routine.run app limit ⟨fresh config, own⟩).2.hub mutation := by
  have sound := wellFormed_run application uses config own limit
  exact sound.allOrNothing mutation known

/-- Makes a setting with a subscriber. -/
def watch : Routine Unit Unit := do
  let item ← Hub.newItem ⟨"watcher", .custom 0, ownQueue⟩
  let name ← Hub.addSetting "name" (.string "pad")
  discard (Hub.subscribe name item).run

theorem mutation_all_or_nothing_watch :
    OnlyLogged (watch.run Application.silent 3 ⟨fresh .standard, ()⟩).2.hub
      ((Mutation.handleSet "name" [0xFF]).run.run (watch.run Application.silent 3 ⟨fresh .standard, ()⟩).2.hub).2 ∧
    ∃ written, Wrote (watch.run Application.silent 3 ⟨fresh .standard, ()⟩).2.hub 0 (.string "keys") written ∧
      ((Mutation.handleSet "name" [107, 101, 121, 115]).run.run
        (watch.run Application.silent 3 ⟨fresh .standard, ()⟩).2.hub).2 = ((submit 0).run written).2 := by
  have application : Application.Uses (Act.Keeps Recelled) (.silent : Application Unit) := Application.uses_silent
  have uses : watch.Uses (Act.Keeps Recelled) := by
    refine uses_bind (uses_act (frame_recelled.newItem _)) fun item => ?_
    refine uses_bind (uses_act (frame_recelled.addSetting _ _)) fun name => ?_
    exact uses_bind (uses_act (frame_recelled.subscribe name item)) fun _ => uses_pure _
  have found : (watch.run Application.silent 3 ⟨fresh .standard, ()⟩).2.hub.findSetting "name" = some 0 := by
    decide +kernel
  have size : (watch.run Application.silent 3 ⟨fresh .standard, ()⟩).2.hub.cells.size = 1 := by decide +kernel
  have known (raw : Bytes) (id : CellId)
      (about : (Mutation.handleSet "name" raw).cell? (watch.run Application.silent 3 ⟨fresh .standard, ()⟩).2.hub =
        some id) : id < (watch.run Application.silent 3 ⟨fresh .standard, ()⟩).2.hub.cells.size := by
    rw [Mutation.cell?, found] at about
    cases about
    rw [size]
    exact Nat.one_pos
  have refused := (mutation_all_or_nothing application uses .standard () 3 _ (known [0xFF])).refused (by decide +kernel)
  have granted := (mutation_all_or_nothing application uses .standard () 3 _ (known [107, 101, 121, 115])).granted
    (by decide +kernel)
  refine ⟨refused, ?_⟩
  obtain ⟨⟨slash, _⟩, _⟩ | ⟨id, value, written, about, asks, wrote, after, _⟩ := granted
  · exact absurd slash (by decide +kernel)
  · rw [Mutation.cell?, found] at about
    cases about
    have reads : (Mutation.handleSet "name" [107, 101, 121, 115]).value?
        (watch.run Application.silent 3 ⟨fresh .standard, ()⟩).2.hub 0 = some (.string "keys") := by decide +kernel
    rw [reads] at asks
    cases asks
    have watched : ((watch.run Application.silent 3 ⟨fresh .standard, ()⟩).2.hub.cell 0).subscriber = some 0 := by
      decide +kernel
    rw [watched] at after
    exact ⟨written, wrote, after⟩

end Routine

end LeafHub
