import LeafHub.Proofs.Hub.Mutation

namespace LeafHub

theorem Payload.eq_event_of_flags? {payload : Payload} {flags : FlagsId} (has : payload.flags? = some flags) :
    payload = .event flags := by
  cases payload with
  | event own => exact congrArg _ (Option.some.inj has)
  | _ => cases has

namespace Hub

/-- The hub with more lines in the log. -/
def withLines (hub : Hub) (lines : List (Level × String)) : Hub :=
  { hub with journal := hub.journal ++ (lines.map fun line => Happening.log line.1 line.2).toArray }

theorem withLines_nil (hub : Hub) : hub.withLines [] = hub := by
  simp [withLines]

theorem withLines_append (hub : Hub) (lines more : List (Level × String)) :
    hub.withLines (lines ++ more) = (hub.withLines lines).withLines more := by
  simp [withLines]

theorem run_log (hub : Hub) (level : Level) (line : String) :
    (log level line).run hub = ((), hub.withLines [(level, line)]) := by
  show ((), { hub with journal := hub.journal.push (.log level line) }) = _
  simp [withLines]

/-- Nothing but lines in the log is new. -/
def OnlyLogged (hub after : Hub) : Prop :=
  ∃ lines, after = hub.withLines lines

theorem passage_onlyLogged : Passage OnlyLogged where
  refl := fun hub => ⟨[], (withLines_nil hub).symm⟩
  trans := by
    rintro first _ _ ⟨lines, rfl⟩ ⟨more, rfl⟩
    exact ⟨lines ++ more, (withLines_append first lines more).symm⟩

theorem onlyLogged_log (level : Level) (line : String) : Act.Keeps OnlyLogged (log level line) :=
  fun hub => ⟨[(level, line)], congrArg Prod.snd (run_log hub level line)⟩

/-- The hub with another value in a cell. An event cell keeps its event object. -/
def put (hub : Hub) (id : CellId) (value : Value) : Hub :=
  match (hub.cell id).payload, value with
  | .event flags, .event bits => { hub with flags := hub.flags.set flags bits }
  | _, _ => { hub with cells := hub.cells.set id { hub.cell id with payload := .ofValue 0 value } }

/-- The same with a line about it, before anybody is told. -/
def putNoted (hub : Hub) (id : CellId) (value : Value) (happening : Happening) : Hub :=
  { hub.put id value with journal := hub.journal.push happening }

theorem put_of_apart {hub : Hub} {id : CellId} {value : Value}
    (apart : ∀ flags bits, (hub.cell id).payload = .event flags → value = .event bits → False) : hub.put id value =
      { hub with cells := hub.cells.set id { hub.cell id with payload := .ofValue 0 value } } := by
  unfold put
  split
  · rename_i flags bits holds
    exact (apart flags bits holds rfl).elim
  · rfl

theorem put_of_other {hub : Hub} {id : CellId} {value : Value} (other : value.kind ≠ .event) : hub.put id value =
    { hub with cells := hub.cells.set id { hub.cell id with payload := .ofValue 0 value } } := by
  refine put_of_apart fun flags bits _ event => ?_
  rw [event] at other
  exact other rfl

theorem put_of_flags {hub : Hub} {id : CellId} {flags : FlagsId} (has : (hub.cell id).payload.flags? = some flags)
    (bits : UInt32) : hub.put id (.event bits) = { hub with flags := hub.flags.set flags bits } := by
  unfold put
  rw [Payload.eq_event_of_flags? has]

theorem run_flagsOf (hub : Hub) (id : CellId) : (flagsOf id).run.run hub =
    (match (hub.cell id).payload.flags? with
      | some flags => .ok flags
      | none => .error .typeMismatch, hub) := by
  unfold flagsOf
  rw [Attempt.run_bind, Attempt.run_get]
  dsimp only
  cases (hub.cell id).payload.flags? <;> rfl

/-- How a store runs: it is refused at once, or the value is put, noted and told. -/
theorem run_store (hub : Hub) (id : CellId) (value : Value) : (store id value).run.run hub =
    if value.kind ≠ (hub.cell id).kind then
      (.error .typeMismatch, ((log .warn
        s!"SET {(hub.cell id).name}: {value.kind.name} value rejected by {(hub.cell id).kind.name} variable").run hub).2)
    else (.ok (), ((notify id).run (hub.putNoted id value (.stored id (hub.cell id).name value))).2) := by
  unfold store
  rw [Attempt.run_bind, Attempt.run_get]
  dsimp only
  split
  · rfl
  · split
    · rename_i flags bits holds _
      have has : (hub.cell id).payload.flags? = some flags := by rw [holds]; rfl
      rw [putNoted, put_of_flags has]
      rfl
    · rename_i apart _
      rw [putNoted, put_of_apart apart]
      rfl

theorem run_count (hub : Hub) (id : CellId) (delta : Int64) : (count id delta).run.run hub =
    match hub.value id with
    | .int64 n => (.ok (n + delta), ((notify id).run
        (hub.putNoted id (.int64 (n + delta)) (.counted id (hub.cell id).name (n + delta)))).2)
    | _ => (.error .typeMismatch, hub) := by
  unfold count
  rw [Attempt.run_bind, Attempt.run_get, Hub.value]
  dsimp only
  cases payload : (hub.cell id).payload with
  | int64 n =>
    simp only [Payload.value]
    have plain : (Value.int64 (n + delta)).kind ≠ .event := fun event => by cases event
    rw [putNoted, put_of_other plain]
    rfl
  | _ => rfl

theorem run_post (hub : Hub) (id : CellId) (bits : UInt32) : (post id bits).run.run hub =
    match hub.value id with
    | .event now => (.ok (), ((notify id).run
        (hub.putNoted id (.event (EventFlags.post now bits)) (.posted id (hub.cell id).name bits))).2)
    | _ => (.error .typeMismatch, hub) := by
  unfold post
  rw [Attempt.run_bind, run_flagsOf, Hub.value]
  cases payload : (hub.cell id).payload with
  | event flags =>
    have has : (hub.cell id).payload.flags? = some flags := by rw [payload]; rfl
    simp only [Payload.value]
    rw [putNoted, put_of_flags has]
    rfl
  | _ => rfl

theorem run_notify (hub : Hub) (id : CellId) : ((notify id).run hub).2 =
    match (hub.cell id).subscriber with
    | some item => ((submit item).run hub).2
    | none => hub := by
  have look : ((notify id).run hub).2 =
      ((match (hub.cell id).subscriber with
        | some item => discard (submit item)
        | none => pure () : Act Unit).run hub).2 := rfl
  rw [look]
  cases (hub.cell id).subscriber <;> rfl

/-- What may come of a mutation. -/
inductive Effect (hub : Hub) (mutation : Mutation) : Bool → Hub → Prop
  | refused {after} : ¬mutation.PassesOver hub →
      (∀ id, mutation.cell? hub = some id → mutation.value? hub id = none) → hub.OnlyLogged after →
        Effect hub mutation false after
  | passedOver {after} : mutation.PassesOver hub → hub.OnlyLogged after → Effect hub mutation true after
  | granted {id value happening started} : mutation.cell? hub = some id → mutation.value? hub id = some value →
      happening.changed? = some id → hub.OnlyLogged started →
        Effect hub mutation true ((notify id).run (started.putNoted id value happening)).2

theorem OnlyLogged.cells {hub after : Hub} (only : hub.OnlyLogged after) : after.cells = hub.cells := by
  obtain ⟨lines, rfl⟩ := only
  rfl

section Effects

variable {hub : Hub}

/-- The store of a value of the right kind is granted, whatever was logged before. -/
theorem effect_stored {mutation : Mutation} {id : CellId} {value : Value} {started : Hub}
    (about : mutation.cell? hub = some id) (asks : mutation.value? hub id = some value)
    (sort : value.kind = (hub.cell id).kind) (only : hub.OnlyLogged started) :
    ∃ after, (store id value).run.run started = (.ok (), after) ∧ Effect hub mutation true after := by
  have same : started.cell id = hub.cell id := by rw [Hub.cell, only.cells]; rfl
  have changed : (Happening.stored id (started.cell id).name value).changed? = some id := rfl
  refine ⟨_, ?_, .granted about asks changed only⟩
  rw [run_store, if_neg]
  rw [same]
  exact not_not_intro sort

theorem effect_refused {mutation : Mutation} {id : CellId} (about : mutation.cell? hub = some id)
    (refuses : mutation.value? hub id = none) {after : Hub} (only : hub.OnlyLogged after) :
    Effect hub mutation false after := by
  refine .refused (fun passes => ?_) (fun other found => ?_) only
  · cases mutation with
    | handleSet key raw =>
      obtain ⟨_, nobody⟩ := passes
      rw [Mutation.cell?, nobody] at about
      cases about
    | _ => exact passes
  · rw [about] at found
    cases found
    exact refuses

theorem effect_store (id : CellId) (value : Value) :
    Effect hub (.store id value) ((store id value).run.run hub).1.isOk ((store id value).run.run hub).2 := by
  by_cases sort : value.kind = (hub.cell id).kind
  · have asks : (Mutation.store id value).value? hub id = some value := if_pos sort
    obtain ⟨after, done, effect⟩ := effect_stored rfl asks sort (passage_onlyLogged.refl hub)
    rw [done]
    exact effect
  · have refuses : (Mutation.store id value).value? hub id = none := if_neg sort
    rw [run_store, if_pos sort]
    exact effect_refused rfl refuses (onlyLogged_log _ _ hub)

/-- What is read is stored, or its fault is the only trace. -/
theorem effect_decided (mutation : Mutation) {id : CellId} {read : Except Fault Value} {answer : Except Fault Unit × Hub}
    (decided : answer = match read with
      | .ok value => (store id value).run.run hub
      | .error fault => (.error fault, hub))
    (about : mutation.cell? hub = some id) (asks : mutation.value? hub id = read.toOption)
    (sort : ∀ value, read = .ok value → value.kind = (hub.cell id).kind) :
    Effect hub mutation answer.1.isOk answer.2 := by
  subst decided
  cases read with
  | error fault => exact effect_refused about asks (passage_onlyLogged.refl hub)
  | ok value =>
    obtain ⟨after, done, effect⟩ := effect_stored about asks (sort value rfl) (passage_onlyLogged.refl hub)
    dsimp only
    rw [done]
    exact effect

theorem effect_storeRaw (id : CellId) (raw : Bytes) :
    Effect hub (.storeRaw id raw) ((storeRaw id raw).run.run hub).1.isOk ((storeRaw id raw).run.run hub).2 :=
  effect_decided (.storeRaw id raw) (run_storeRaw hub id raw) rfl rfl fun _ => Kind.kind_ofRaw

theorem effect_storeText (id : CellId) (text : String) :
    Effect hub (.storeText id text) ((storeText id text).run.run hub).1.isOk ((storeText id text).run.run hub).2 :=
  effect_decided (.storeText id text) (run_storeText hub id text) rfl rfl fun _ => Kind.kind_ofText

/-- A counter is moved, and nothing else can be. -/
theorem effect_count (id : CellId) (delta : Int64) :
    Effect hub (.count id delta) ((count id delta).run.run hub).1.isOk ((count id delta).run.run hub).2 := by
  have asks : (Mutation.count id delta).value? hub id =
    match hub.value id with
    | .int64 n => some (.int64 (n + delta))
    | _ => none := rfl
  rw [run_count]
  cases now : hub.value id with
  | int64 n =>
    rw [now] at asks
    exact .granted rfl asks rfl (passage_onlyLogged.refl hub)
  | _ =>
    rw [now] at asks
    exact effect_refused rfl asks (passage_onlyLogged.refl hub)

theorem effect_post (id : CellId) (bits : UInt32) :
    Effect hub (.post id bits) ((post id bits).run.run hub).1.isOk ((post id bits).run.run hub).2 := by
  have asks : (Mutation.post id bits).value? hub id =
    match hub.value id with
    | .event now => some (.event (EventFlags.post now bits))
    | _ => none := rfl
  rw [run_post]
  cases now : hub.value id with
  | event current =>
    rw [now] at asks
    exact .granted rfl asks rfl (passage_onlyLogged.refl hub)
  | _ =>
    rw [now] at asks
    exact effect_refused rfl asks (passage_onlyLogged.refl hub)

theorem kind_spliced {kind : Kind} {raw data : Bytes} {offset limit : Nat} {value : Value}
    (read : spliced kind raw data offset limit = .ok value) : value.kind = kind := by
  unfold spliced at read
  dsimp only at read
  split at read
  · cases read
  · split at read
    · split at read
      · cases read
      · split at read
        · cases read
          rfl
        · cases read
    · cases read
    · split at read
      · cases read
      · split at read
        · rename_i decoded
          cases read
          exact Kind.kind_ofRaw decoded
        · cases read

theorem effect_writeCharacteristic (id : CellId) (data : Bytes) (offset limit : Nat) :
    Effect hub (.writeCharacteristic id data offset limit)
      ((writeCharacteristic id data offset limit).run.run hub).1.isOk
      ((writeCharacteristic id data offset limit).run.run hub).2 := by
  have asks : (Mutation.writeCharacteristic id data offset limit).value? hub id =
    (spliced (hub.cell id).kind (hub.value id).raw data offset limit).toOption := rfl
  unfold writeCharacteristic
  rw [Attempt.run_bind, Attempt.run_get]
  dsimp only
  cases read : spliced (hub.cell id).kind (hub.value id).raw data offset limit with
  | error fault =>
    rw [read] at asks
    dsimp only
    split
    · exact effect_refused rfl asks (onlyLogged_log _ _ hub)
    · exact effect_refused rfl asks (passage_onlyLogged.refl hub)
  | ok value =>
    rw [read] at asks
    have stored {started : Hub} (only : hub.OnlyLogged started) := effect_stored rfl asks (kind_spliced read) only
    dsimp only
    split
    · rename_i text
      obtain ⟨after, done, effect⟩ := stored (onlyLogged_log .info s!"write_string {(hub.cell id).name} <= [{text}]" hub)
      rw [Attempt.run_bind, Attempt.run_lift]
      dsimp only
      rw [Attempt.run_bind, Attempt.run_lift, done]
      exact effect
    · obtain ⟨after, done, effect⟩ := stored (passage_onlyLogged.refl hub)
      rw [Attempt.run_bind, Attempt.run_lift, done]
      exact effect

theorem effect_handleSet (key : String) (raw : Bytes) :
    Effect hub (.handleSet key raw) ((handleSet key raw).run.run hub).1.isOk ((handleSet key raw).run.run hub).2 := by
  have only := onlyLogged_log .info s!"name={key} len={raw.length}" hub
  have named : (((log .info s!"name={key} len={raw.length}").run hub).2).findSetting key = hub.findSetting key := rfl
  have kinds (id : CellId) : (((log .info s!"name={key} len={raw.length}").run hub).2).cell id = hub.cell id := rfl
  unfold handleSet
  rw [Attempt.run_bind, Attempt.run_lift]
  generalize ((log .info s!"name={key} len={raw.length}").run hub).2 = started at only named kinds
  dsimp only
  rw [Attempt.run_bind, Attempt.run_get]
  dsimp only
  rw [named]
  cases found : hub.findSetting key with
  | none =>
    dsimp only
    split
    · rename_i slash
      exact .passedOver ⟨slash, found⟩ only
    · rename_i plain
      refine .refused (fun passes => plain passes.1) (fun id there => ?_) only
      rw [Mutation.cell?, found] at there
      cases there
  | some id =>
    have about : (Mutation.handleSet key raw).cell? hub = some id := found
    dsimp only
    rw [kinds]
    split
    · rename_i event
      have refuses : (Mutation.handleSet key raw).value? hub id = none := if_pos event
      exact effect_refused about refuses (passage_onlyLogged.trans only (onlyLogged_log _ _ started))
    · rename_i plain
      have asks : (Mutation.handleSet key raw).value? hub id = ((hub.cell id).kind.ofRaw raw).toOption := if_neg plain
      rw [Attempt.run_tryCatch, run_storeRaw, kinds]
      cases read : (hub.cell id).kind.ofRaw raw with
      | error fault =>
        rw [read] at asks
        exact effect_refused about asks (passage_onlyLogged.trans only (onlyLogged_log _ _ started))
      | ok value =>
        rw [read] at asks
        obtain ⟨after, done, effect⟩ := effect_stored about asks (Kind.kind_ofRaw read) only
        dsimp only
        rw [done]
        exact effect

/-- Whatever a hub and a mutation are like. -/
theorem effect (hub : Hub) (mutation : Mutation) :
    Effect hub mutation (mutation.run.run hub).1 (mutation.run.run hub).2 := by
  cases mutation with
  | store id value => exact effect_store id value
  | storeRaw id raw => exact effect_storeRaw id raw
  | storeText id text => exact effect_storeText id text
  | count id delta => exact effect_count id delta
  | post id bits => exact effect_post id bits
  | writeCharacteristic id data offset limit => exact effect_writeCharacteristic id data offset limit
  | handleSet key raw => exact effect_handleSet key raw

end Effects

end Hub

end LeafHub
