import LeafHub.Proofs.Hub.AllOrNothing
import LeafHub.Proofs.Value.RawCodec

namespace LeafHub

/-- Bytes with data laid over them from an offset on. -/
def overlaid (old data : Bytes) (offset : Nat) : Bytes :=
  old.mapIdx fun place b => if place < offset then b else (data[place - offset]?).getD b

@[simp] theorem length_overlaid (old data : Bytes) (offset : Nat) : (overlaid old data offset).length = old.length := by
  simp [overlaid]

/-- Cutting and joining does the same, as long as the data fits. -/
theorem take_append_drop_eq_overlaid {old data : Bytes} {offset : Nat} (fits : offset + data.length ≤ old.length) :
    old.take offset ++ data ++ old.drop (offset + data.length) = overlaid old data offset := by
  have front : (old.take offset).length = offset := by
    rw [List.length_take]
    omega
  apply List.ext_getElem?
  intro place
  rw [overlaid, List.getElem?_mapIdx, List.append_assoc]
  by_cases before : place < offset
  · rw [List.getElem?_append_left (by omega), List.getElem?_take_of_lt before]
    simp [before]
  · rw [List.getElem?_append_right (by omega), front]
    by_cases inside : place - offset < data.length
    · have there : place < old.length := by omega
      rw [List.getElem?_append_left inside, List.getElem?_eq_getElem inside, List.getElem?_eq_getElem there]
      simp [before]
    · have behind : offset + data.length + (place - offset - data.length) = place := by omega
      rw [List.getElem?_append_right (by omega), List.getElem?_drop, behind]
      simp [before, List.getElem?_eq_none (Nat.not_lt.mp inside)]

namespace Hub

theorem spliced_event (raw data : Bytes) (offset limit : Nat) :
    spliced .event raw data offset limit = .error .invalidOffset := by
  unfold spliced
  dsimp only
  split <;> rfl

/-- Widths are far below the largest offset. -/
theorem width_lt {kind : Kind} {width : Nat} (wide : kind.width = some width) : width < UInt64.size := by
  cases kind <;> cases wide <;> decide

theorem spliced_scalar {kind : Kind} {width : Nat} (wide : kind.width = some width) (other : kind ≠ .event)
    {raw : Bytes} (sized : raw.length = width) (data : Bytes) (offset limit : Nat) :
    spliced kind raw data offset limit =
      if offset + data.length ≤ width then .ok (kind.scalarOfRaw (overlaid raw data offset))
      else .error .invalidOffset := by
  have small := width_lt wide
  unfold spliced
  dsimp only
  by_cases fits : offset + data.length ≤ width
  · have inside : offset + data.length ≤ raw.length := by omega
    have laid := take_append_drop_eq_overlaid inside
    have long : (overlaid raw data offset).length = width := by rw [length_overlaid, sized]
    rw [if_neg (by omega), if_pos fits]
    split
    · cases wide
    · exact absurd rfl other
    · rw [wide, Option.getD_some, if_neg (by omega), laid, Kind.ofRaw_of_width wide, if_pos long]
  · rw [if_neg fits]
    split
    · rfl
    · split
      · cases wide
      · rfl
      · rw [wide, Option.getD_some, if_pos (by omega)]

/-- Whether there is room in a string for data at an offset. -/
def Room (raw data : Bytes) (offset limit : Nat) : Prop :=
  offset + data.length ≤ limit ∧ offset + data.length < UInt64.size ∧ offset ≤ raw.length

section Strings

variable {raw data : Bytes} {offset limit : Nat}

theorem spliced_string_of_full (full : ¬Room raw data offset limit) :
    spliced .string raw data offset limit = .error .invalidOffset := by
  unfold Room at full
  unfold spliced
  dsimp only
  by_cases bound : UInt64.size ≤ offset + data.length
  · rw [if_pos bound]
  · rw [if_neg bound, if_pos (by omega)]

theorem spliced_string_of_room (room : Room raw data offset limit) : spliced .string raw data offset limit =
    match Text.utf8? (raw.take offset ++ data) with
    | some text => .ok (.string text)
    | none => .error .valueNotAllowed := by
  obtain ⟨short, bound, inside⟩ := room
  unfold spliced
  dsimp only
  rw [if_neg (by omega)]
  exact if_neg (by omega)

theorem spliced_string_of_text (room : Room raw data offset limit) {text : String}
    (spelled : Text.utf8 text = raw.take offset ++ data) :
    spliced .string raw data offset limit = .ok (.string text) := by
  rw [spliced_string_of_room room, Text.utf8?_eq_some_iff.mpr spelled.symm]

theorem spliced_string_of_garbled (room : Room raw data offset limit)
    (garbled : ∀ text, Text.utf8 text ≠ raw.take offset ++ data) :
    spliced .string raw data offset limit = .error .valueNotAllowed := by
  rw [spliced_string_of_room room]
  cases found : Text.utf8? (raw.take offset ++ data) with
  | some text => exact absurd (Text.utf8?_eq_some_iff.mp found).symm (garbled text)
  | none => rfl

end Strings

/-- A refused write leaves at most a line in the log. -/
theorem run_write_of_error {hub : Hub} {id : CellId} {data : Bytes} {offset limit : Nat} {fault : AttFault}
    (refused : spliced (hub.cell id).kind (hub.value id).raw data offset limit = .error fault) :
    ∃ after, (writeCharacteristic id data offset limit).run.run hub = (.error fault, after) ∧ hub.OnlyLogged after := by
  unfold writeCharacteristic
  rw [Attempt.run_bind, Attempt.run_get]
  dsimp only
  rw [refused]
  dsimp only
  split
  · exact ⟨_, rfl, onlyLogged_log _ _ hub⟩
  · exact ⟨_, rfl, passage_onlyLogged.refl hub⟩

/-- A granted write takes all of the data and leaves the new value in its cell. -/
theorem run_write_of_ok {hub : Hub} {id : CellId} {old new : Value} (shows' : hub.Shows id old) {data : Bytes}
    {offset limit : Nat} (granted : spliced old.kind old.raw data offset limit = .ok new) :
    ∃ after, (writeCharacteristic id data offset limit).run.run hub = (.ok data.length, after) ∧
      after.Shows id new := by
  have sort : new.kind = old.kind := kind_spliced granted
  have plain : new.kind ≠ .event := by
    intro event
    rw [← sort, event, spliced_event] at granted
    cases granted
  rw [← shows'.kind, ← shows'.value] at granted
  unfold writeCharacteristic
  rw [Attempt.run_bind, Attempt.run_get]
  dsimp only
  rw [granted]
  dsimp only
  split
  · rename_i text
    have logged := (requeued_log .info s!"write_string {(hub.cell id).name} <= [{text}]" hub).shows shows'
    obtain ⟨after, done, shows''⟩ := logged.run_store sort plain
    refine ⟨after, ?_, shows''⟩
    rw [Attempt.run_bind, Attempt.run_lift]
    dsimp only
    rw [Attempt.run_bind, Attempt.run_lift, done]
    rfl
  · obtain ⟨after, done, shows''⟩ := shows'.run_store sort plain
    refine ⟨after, ?_, shows''⟩
    rw [Attempt.run_bind, Attempt.run_lift, done]
    rfl

/-- What a write comes to, by the kind of its cell. -/
structure WritesExactly (hub : Hub) (id : CellId) (data : Bytes) (offset limit : Nat) (answer : Except AttFault Nat)
    (after : Hub) : Prop where
  event : (hub.cell id).kind = .event → answer = .error .invalidOffset
  scalar : ∀ width, (hub.cell id).kind.width = some width → (hub.cell id).kind ≠ .event →
    offset + data.length ≤ width → answer = .ok data.length ∧ (after.value id).kind = (hub.cell id).kind ∧
      (after.value id).raw = (hub.cell id).kind.tidied (overlaid (hub.value id).raw data offset)
  beyond : ∀ width, (hub.cell id).kind.width = some width → width < offset + data.length →
    answer = .error .invalidOffset
  string : (hub.cell id).kind = .string → Room (hub.value id).raw data offset limit →
    ∀ text, Text.utf8 text = (hub.value id).raw.take offset ++ data →
      answer = .ok data.length ∧ after.value id = .string text
  full : (hub.cell id).kind = .string → ¬Room (hub.value id).raw data offset limit → answer = .error .invalidOffset
  garbled : (hub.cell id).kind = .string → Room (hub.value id).raw data offset limit →
    (∀ text, Text.utf8 text ≠ (hub.value id).raw.take offset ++ data) → answer = .error .valueNotAllowed
  refused : ∀ fault, answer = .error fault → hub.OnlyLogged after

theorem Coherent.writesExactly {hub : Hub} (coherent : hub.Coherent) {id : CellId} (known : id < hub.cells.size)
    {data : Bytes} {offset limit : Nat} {answer : Except AttFault Nat} {after : Hub}
    (ran : (writeCharacteristic id data offset limit).run.run hub = (answer, after)) :
    hub.WritesExactly id data offset limit answer after := by
  have shows' := coherent.shows known
  have refusal {fault : AttFault}
      (why : spliced (hub.cell id).kind (hub.value id).raw data offset limit = .error fault) :
      answer = .error fault ∧ hub.OnlyLogged after := by
    obtain ⟨_, done, only⟩ := run_write_of_error why
    cases ran.symm.trans done
    exact ⟨rfl, only⟩
  have grant {new : Value} (why : spliced (hub.cell id).kind (hub.value id).raw data offset limit = .ok new) :
      answer = .ok data.length ∧ after.Shows id new := by
    rw [shows'.kind] at why
    obtain ⟨_, done, written⟩ := run_write_of_ok shows' why
    cases ran.symm.trans done
    exact ⟨rfl, written⟩
  have sized {width : Nat} (wide : (hub.cell id).kind.width = some width) : (hub.value id).raw.length = width := by
    rw [shows'.kind] at wide
    exact Value.length_raw wide
  constructor
  case event =>
    intro event
    refine (refusal ?_).1
    rw [event, spliced_event]
  case scalar =>
    intro width wide other fits
    have cut := spliced_scalar wide other (sized wide) data offset limit
    rw [if_pos fits] at cut
    obtain ⟨done, written⟩ := grant cut
    refine ⟨done, ?_, ?_⟩
    · rw [written.value, kind_spliced cut]
    · rw [written.value, Kind.raw_scalarOfRaw]
      rw [wide, length_overlaid, sized wide]
  case beyond =>
    intro width wide long
    refine (refusal ?_).1
    by_cases event : (hub.cell id).kind = .event
    · rw [event, spliced_event]
    · rw [spliced_scalar wide event (sized wide), if_neg (by omega)]
  case string =>
    intro string room text spelled
    have cut := spliced_string_of_text room spelled
    rw [← string] at cut
    obtain ⟨done, written⟩ := grant cut
    exact ⟨done, written.value⟩
  case full =>
    intro string full
    refine (refusal ?_).1
    rw [string, spliced_string_of_full full]
  case garbled =>
    intro string room garbled
    refine (refusal ?_).1
    rw [string, spliced_string_of_garbled room garbled]
  case refused =>
    intro fault failed
    cases why : spliced (hub.cell id).kind (hub.value id).raw data offset limit with
    | error fault => exact (refusal why).2
    | ok new =>
      cases failed.symm.trans (grant why).1

end Hub

end LeafHub
