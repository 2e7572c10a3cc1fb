import LeafHub.Proofs.Hub.AllOrNothing
import LeafHub.Proofs.Value.RawForm

namespace LeafHub

namespace Value

/-- The raw form of a value, and a NUL after it if it is a string. -/
def terminated : Value → Bytes
  | .string text => Text.utf8 text ++ [0]
  | value => value.raw

/-- What a value takes up in a buffer: the width of its kind, or the bytes of a string and one more. -/
def room (value : Value) : Nat :=
  value.kind.width.getD (value.raw.length + 1)

theorem length_terminated (value : Value) : value.terminated.length = value.room := by
  cases wide : value.kind.width with
  | none =>
    cases value with
    | string text => exact List.length_append
    | _ => cases wide
  | some width =>
    rw [room, wide, Option.getD_some, ← length_raw wide]
    cases value with
    | string text => cases wide
    | _ => rfl

/-- The one NUL that is dropped is that of the buffer, whatever the string itself ends with. -/
theorem ofRaw_terminated (value : Value) : value.kind.ofRaw value.terminated = .ok value := by
  cases value with
  | string text => simp [terminated, kind, Kind.ofRaw, Kind.width, dropTerminator]
  | bool | byte | uint16 | int16 | int32 | int64 | event => exact ofRaw_raw _

end Value

namespace Hub

variable {hub : Hub} {id : CellId}

namespace WellFormed

variable (sound : hub.WellFormed)

include sound

/-- The bytes that a read writes. -/
theorem rawImage (id : CellId) : hub.rawImage id = (hub.value id).terminated := by
  unfold Hub.rawImage
  cases holds : (hub.cell id).payload with
  | string stored =>
    obtain ⟨text, rfl⟩ := sound.text id stored holds
    simp [Hub.value, holds, Payload.value, Cell.terminated, Value.terminated]
  | _ =>
    simp [Hub.value, holds, Payload.value, Value.terminated]

/-- The number that a read returns. -/
theorem readSize (id : CellId) : (if (hub.cell id).payload.allocated?.isSome then (hub.rawImage id).length - 1
    else (hub.rawImage id).length) = (hub.value id).raw.length := by
  rw [sound.rawImage]
  cases holds : (hub.cell id).payload with
  | string stored =>
    obtain ⟨text, rfl⟩ := sound.text id stored holds
    simp [Hub.value, holds, Payload.value, Payload.allocated?, Cell.terminated, Value.terminated, Value.raw]
  | _ =>
    simp [Hub.value, holds, Payload.value, Payload.allocated?, Value.terminated]

theorem run_readRaw (id : CellId) (buffer : Bytes) : ∃ lines, (readRaw id buffer).run hub =
    if buffer.length < (hub.value id).room then ((.error .bufferTooSmall, buffer), hub)
    else ((.ok (hub.value id).raw.length, (hub.value id).terminated ++ buffer.drop (hub.value id).room),
      hub.withLines lines) := by
  unfold readRaw
  rw [Act.run_bind_of (Act.run_get hub)]
  dsimp only
  rw [sound.readSize, sound.rawImage, Value.length_terminated]
  split
  · exact ⟨[], rfl⟩
  · rw [Act.run_bind_of (run_log hub _ _)]
    exact ⟨_, rfl⟩

/-- The raw form of a value with its terminator can be stored in any cell of the kind of the value, and gives it that
value. -/
theorem store_terminated {other : CellId} (known : other < hub.cells.size) {value : Value}
    (same : (hub.cell other).kind = value.kind) :
    ((storeRaw other value.terminated).run.run hub).1 = .ok () ∧
      ((storeRaw other value.terminated).run.run hub).2.value other = value ∧
      ∀ id, id ≠ other → ((storeRaw other value.terminated).run.run hub).2.value id = hub.value id := by
  have asks : (Mutation.storeRaw other value.terminated).value? hub other = some value := by
    rw [Mutation.value?, same, Value.ofRaw_terminated]
    rfl
  have whole := sound.allOrNothing (.storeRaw other value.terminated) fun id about => Option.some.inj about ▸ known
  have granted : ((Mutation.storeRaw other value.terminated).run.run hub).1 = true :=
    whole.granted_iff.mpr (.inr ⟨other, rfl, by rw [asks]; rfl⟩)
  have stored : ((storeRaw other value.terminated).run.run hub).1 = .ok () := by
    change ((storeRaw other value.terminated).run.run hub).1.isOk = true at granted
    cases answer : ((storeRaw other value.terminated).run.run hub).1 with
    | ok done => rfl
    | error fault =>
      rw [answer] at granted
      cases granted
  refine ⟨stored, ?_⟩
  obtain ⟨passed, _⟩ | ⟨id, read, written, about, reads, wrote, told, _⟩ := whole.granted granted
  · exact passed.elim
  · obtain rfl := Option.some.inj about
    obtain rfl := Option.some.inj (asks.symm.trans reads)
    -- telling the subscriber changes queues and the log
    have after (id : CellId) : ((storeRaw other value.terminated).run.run hub).2.value id = written.value id := by
      change ((storeRaw other value.terminated).run.run hub).2 = _ at told
      rw [told]
      cases (hub.cell other).subscriber with
      | none => rfl
      | some item =>
        obtain ⟨queues, journal, requeued⟩ := requeued_submit item written
        show ((submit item).run written).2.value id = _
        rw [requeued]
        rfl
    exact ⟨(after other).trans wrote.value, fun id apart => (after id).trans (wrote.others id apart).2⟩

end WellFormed

/-- What reading a raw value into a buffer comes to. -/
structure ReadsWhole (hub : Hub) (id : CellId) (buffer : Bytes) (answer : Except Fault Nat) (filled : Bytes)
    (after : Hub) : Prop where
  granted_iff : answer.isOk = true ↔ (hub.value id).room ≤ buffer.length
  returned : ∀ size, answer = .ok size → size = (hub.value id).raw.length
  written : answer.isOk = true → filled.take (hub.value id).room = (hub.value id).terminated
  beyond : answer.isOk = true → filled.drop (hub.value id).room = buffer.drop (hub.value id).room
  length : filled.length = buffer.length
  refused : ∀ fault, answer = .error fault → fault = .bufferTooSmall ∧ filled = buffer
  only : hub.OnlyLogged after

theorem WellFormed.readsWhole (sound : hub.WellFormed) (id : CellId) (buffer : Bytes) :
    hub.ReadsWhole id buffer ((readRaw id buffer).run hub).1.1 ((readRaw id buffer).run hub).1.2
      ((readRaw id buffer).run hub).2 := by
  obtain ⟨lines, done⟩ := sound.run_readRaw id buffer
  have image := (hub.value id).length_terminated
  rw [done]
  by_cases short : buffer.length < (hub.value id).room
  · rw [if_pos short]
    exact
      { granted_iff := iff_of_false nofun (Nat.not_le.mpr short)
        returned := nofun
        written := nofun
        beyond := nofun
        length := rfl
        refused := fun fault failed => ⟨(Except.error.inj failed).symm, rfl⟩
        only := passage_onlyLogged.refl hub }
  · rw [if_neg short]
    have enough := Nat.le_of_not_lt short
    exact
      { granted_iff := iff_of_true rfl enough
        returned := fun size granted => (Except.ok.inj granted).symm
        written := fun _ => List.take_left' image
        beyond := fun _ => List.drop_left' image
        length := by
          rw [List.length_append, List.length_drop, image]
          omega
        refused := nofun
        only := ⟨lines, rfl⟩ }

/-- Stored into a cell, the bytes give it that value, and another cell keeps the value. -/
structure GivesValue (hub : Hub) (bytes : Bytes) (id other : CellId) (value : Value) : Prop where
  granted : ((storeRaw other bytes).run.run hub).1 = .ok ()
  given : ((storeRaw other bytes).run.run hub).2.value other = value
  kept : ((storeRaw other bytes).run.run hub).2.value id = value

theorem WellFormed.givesValue (sound : hub.WellFormed) {id other : CellId} (known : other < hub.cells.size)
    (same : (hub.cell other).kind = (hub.cell id).kind) :
    hub.GivesValue (hub.value id).terminated id other (hub.value id) := by
  have kind := same.trans (sound.coherent.kind_value id).symm
  obtain ⟨granted, given, others⟩ := sound.store_terminated known kind
  refine ⟨granted, given, ?_⟩
  by_cases own : id = other
  · rw [own] at given ⊢
    exact given
  · exact others id own

end Hub

namespace Routine

open Hub

variable {σ α : Type}

/-- In every hub that an application makes out of a new one, a raw value is read whole into a buffer or not at all, and
storing what was written gives every cell of the same kind the value that was read. -/
theorem raw_read_whole_and_back {app : Application σ} {routine : Routine σ α}
    (application : app.Uses (Act.Keeps Recelled)) (uses : routine.Uses (Act.Keeps Recelled)) (config : Config) (own : σ)
    (limit : Nat) {hub : Hub} (reached : (routine.run app limit ⟨fresh config, own⟩).2.hub = hub) (id : CellId)
    (buffer : Bytes) :
    AllowsCells (Act.Keeps Recelled) ∧ (hub.value id).kind = (hub.cell id).kind ∧
    hub.ReadsWhole id buffer ((readRaw id buffer).run hub).1.1 ((readRaw id buffer).run hub).1.2
      ((readRaw id buffer).run hub).2 ∧
    (((readRaw id buffer).run hub).1.1.isOk = true → ∀ other < hub.cells.size,
      (hub.cell other).kind = (hub.cell id).kind → ((readRaw id buffer).run hub).2.GivesValue
        (((readRaw id buffer).run hub).1.2.take (hub.value id).room) id other (hub.value id)) := by
  have sound : hub.WellFormed := reached ▸ wellFormed_run application uses config own limit
  have whole := sound.readsWhole id buffer
  refine ⟨frame_recelled.allowsCells, sound.coherent.kind_value id, whole, fun granted other known same => ?_⟩
  rw [whole.written granted]
  obtain ⟨lines, after⟩ := whole.only
  have later := whole.only.wellFormed sound
  rw [after] at later ⊢
  exact later.givesValue known same

/-- Makes two string cells, the first with a NUL at the end. -/
def pair : Routine Unit Unit := do
  discard (Hub.newCell "one" (.string "ab\x00"))
  discard (Hub.newCell "other" (.string "pad"))

theorem raw_read_whole_and_back_pair :
    ((readRaw 0 (List.replicate 5 0xAA)).run (pair.run Application.silent 2 ⟨fresh .standard, ()⟩).2.hub).1.2 =
      [97, 98, 0, 0, 0xAA] ∧
    ((readRaw 0 (List.replicate 3 0xAA)).run (pair.run Application.silent 2 ⟨fresh .standard, ()⟩).2.hub).1.2 =
      [0xAA, 0xAA, 0xAA] ∧
    GivesValue ((readRaw 0 (List.replicate 5 0xAA)).run (pair.run Application.silent 2 ⟨fresh .standard, ()⟩).2.hub).2
      [97, 98, 0, 0] 0 1 (.string "ab\x00") := by
  have application : Application.Uses (Act.Keeps Recelled) (.silent : Application Unit) := Application.uses_silent
  have uses : pair.Uses (Act.Keeps Recelled) :=
    uses_bind (uses_bind (uses_act (frame_recelled.newCell _ _)) fun _ => uses_pure _) fun _ =>
      uses_bind (uses_act (frame_recelled.newCell _ _)) fun _ => uses_pure _
  obtain ⟨_, _, _, back⟩ := raw_read_whole_and_back application uses .standard () 2 rfl 0 (List.replicate 5 0xAA)
  have granted := back (by decide +kernel) 1 (by decide +kernel) (by decide +kernel)
  have value : (pair.run Application.silent 2 ⟨fresh .standard, ()⟩).2.hub.value 0 = .string "ab\x00" := by
    decide +kernel
  have written : ((readRaw 0 (List.replicate 5 0xAA)).run
      (pair.run Application.silent 2 ⟨fresh .standard, ()⟩).2.hub).1.2.take 4 = [97, 98, 0, 0] := by decide +kernel
  have room : ((pair.run Application.silent 2 ⟨fresh .standard, ()⟩).2.hub.value 0).room = 4 := by decide +kernel
  rw [room, value, written] at granted
  exact ⟨by decide +kernel, by decide +kernel, granted⟩

end Routine

end LeafHub
