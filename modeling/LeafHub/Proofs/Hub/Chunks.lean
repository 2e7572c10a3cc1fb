import LeafHub.Proofs.Hub.Splicing

namespace LeafHub

namespace Text

theorem utf8_append (front back : String) : utf8 (front ++ back) = utf8 front ++ utf8 back := by
  unfold utf8
  rw [String.toByteArray_append, ByteArray.data_append, Array.toList_append]

/-- The places between characters are those where a text begins with a text. -/
theorem isValid_iff_exists_utf8 {text : String} {front : Bytes} (starts : front <+: utf8 text) :
    (⟨front.length⟩ : String.Pos.Raw).IsValid text ↔ ∃ part, utf8 part = front := by
  constructor
  · intro valid
    obtain ⟨part, rest, rfl, ends⟩ := String.Pos.Raw.isValid_iff_exists_append.mp valid
    have sized : front.length = (utf8 part).length := congrArg String.Pos.Raw.byteIdx ends
    rw [utf8_append] at starts
    have same := List.prefix_of_prefix_length_le starts (List.prefix_append _ _) (Nat.le_of_eq sized)
    exact ⟨part, (same.eq_of_length sized).symm⟩
  · rintro ⟨part, rfl⟩
    obtain ⟨rest, whole⟩ := starts
    have long : (utf8 part).length ≤ (utf8 text).length := by
      rw [← whole, List.length_append]
      omega
    have front : text.toByteArray.extract 0 (utf8 part).length = part.toByteArray := by
      apply ByteArray.ext
      apply Array.toList_inj.mp
      rw [ByteArray.data_extract, Array.toList_extract, List.extract_eq_take_drop]
      show ((utf8 text).drop 0).take _ = utf8 part
      rw [List.drop_zero, ← whole, Nat.sub_zero, List.take_left]
    rw [String.Pos.Raw.isValid_iff_isValidUTF8_extract_zero]
    dsimp only
    rw [front]
    exact ⟨long, part.isValidUTF8⟩

/-- No chunk ends inside a character of the text. -/
def Unbroken (text : String) (chunks : List Bytes) : Prop :=
  ∀ k, (⟨(chunks.take k).flatten.length⟩ : String.Pos.Raw).IsValid text

theorem Unbroken.parts {text : String} {chunks : List Bytes} (unbroken : Unbroken text chunks)
    (starts : chunks.flatten <+: utf8 text) (k : Nat) : ∃ part, utf8 part = (chunks.take k).flatten := by
  have front : (chunks.take k).flatten <+: chunks.flatten := by
    refine ⟨(chunks.drop k).flatten, ?_⟩
    rw [← List.flatten_append, List.take_append_drop]
  exact (isValid_iff_exists_utf8 (front.trans starts)).mp (unbroken k)

end Text

namespace Hub

/-- Writes chunks one after the other, each where the one before it ended, up to the first that is refused. -/
def writeChunks (id : CellId) (limit : Nat) : Nat → List Bytes → ExceptT AttFault Act Unit
  | _, [] => pure ()
  | offset, chunk :: rest => do
    let _ ← writeCharacteristic id chunk offset limit
    writeChunks id limit (offset + chunk.length) rest

section Chunks

variable {id : CellId} {limit : Nat}

/-- Once the first chunks are taken, the others are written behind them. -/
theorem run_writeChunks_append {hub between : Hub} {before : List Bytes} {offset : Nat}
    (ran : (writeChunks id limit offset before).run.run hub = (.ok (), between)) (rest : List Bytes) :
    (writeChunks id limit offset (before ++ rest)).run.run hub =
      (writeChunks id limit (offset + before.flatten.length) rest).run.run between := by
  induction before generalizing hub offset with
  | nil =>
    cases ran
    rfl
  | cons chunk more ih =>
    obtain ⟨taken, after, first, later⟩ := Attempt.of_run_bind ran
    have place : offset + (chunk :: more).flatten.length = offset + chunk.length + more.flatten.length := by
      rw [List.flatten_cons, List.length_append]
      omega
    rw [place, ← ih later]
    exact Attempt.run_bind_of first _

theorem run_writeChunks_of_error {hub after : Hub} {chunk : Bytes} {offset : Nat} {fault : AttFault}
    (ran : (writeCharacteristic id chunk offset limit).run.run hub = (.error fault, after)) (rest : List Bytes) :
    (writeChunks id limit offset (chunk :: rest)).run.run hub = (.error fault, after) := by
  unfold writeChunks
  rw [Attempt.run_bind, ran]

section Arrival

variable {hub : Hub} {old : String} (shows' : hub.Shows id (.string old))

/-- A string that begins with what is there so far has room for a chunk of what is to come. -/
theorem room_of_starts {front chunk : Bytes} (starts : front <+: Text.utf8 old)
    (fits : front.length + chunk.length ≤ limit) (small : limit < UInt64.size) :
    Room (Value.string old).raw chunk front.length limit :=
  ⟨fits, by omega, starts.length_le⟩

include shows'

/-- A chunk that completes a text leaves that text. -/
theorem run_chunk {front chunk : Bytes} {part : String} (starts : front <+: Text.utf8 old)
    (spelled : Text.utf8 part = front ++ chunk) (fits : part.utf8ByteSize ≤ limit) (small : limit < UInt64.size) :
    ∃ after, (writeCharacteristic id chunk front.length limit).run.run hub = (.ok chunk.length, after) ∧
      after.Shows id (.string part) := by
  have long : front.length + chunk.length ≤ limit := by
    rw [← List.length_append, ← spelled, Text.length_utf8]
    exact fits
  have cut : (Value.string old).raw.take front.length = front := (List.prefix_iff_eq_take.mp starts).symm
  refine run_write_of_ok shows' (spliced_string_of_text (room_of_starts starts long small) ?_)
  rw [cut]
  exact spelled

/-- A chunk that ends inside a character is refused. -/
theorem run_chunk_of_garbled {front chunk : Bytes} (starts : front <+: Text.utf8 old)
    (garbled : ∀ part, Text.utf8 part ≠ front ++ chunk) (fits : front.length + chunk.length ≤ limit)
    (small : limit < UInt64.size) :
    ∃ after, (writeCharacteristic id chunk front.length limit).run.run hub = (.error .valueNotAllowed, after) ∧
      hub.OnlyLogged after := by
  have cut : (Value.string old).raw.take front.length = front := (List.prefix_iff_eq_take.mp starts).symm
  apply run_write_of_error
  rw [shows'.kind, shows'.value]
  refine spliced_string_of_garbled (room_of_starts starts fits small) ?_
  rw [cut]
  exact garbled

end Arrival

/-- Chunk after chunk leaves the text so far, whatever stood behind it, and at last the whole. -/
theorem run_chunks {hub : Hub} {old whole : String} {front : Bytes} {chunks : List Bytes}
    (shows' : hub.Shows id (.string old)) (starts : front <+: Text.utf8 old) (arrived : chunks = [] → old = whole)
    (spelled : Text.utf8 whole = front ++ chunks.flatten)
    (parts : ∀ k, ∃ part, Text.utf8 part = front ++ (chunks.take k).flatten)
    (fits : whole.utf8ByteSize ≤ limit) (small : limit < UInt64.size) :
    ∃ after, (writeChunks id limit front.length chunks).run.run hub = (.ok (), after) ∧
      after.Shows id (.string whole) := by
  induction chunks generalizing hub old front with
  | nil =>
    cases arrived rfl
    exact ⟨hub, rfl, shows'⟩
  | cons chunk rest ih =>
    obtain ⟨part, so_far⟩ := parts 1
    rw [List.take_succ_cons, List.take_zero, List.flatten_cons, List.flatten_nil, List.append_nil] at so_far
    rw [List.flatten_cons, ← List.append_assoc, ← so_far] at spelled
    have part_fits : part.utf8ByteSize ≤ limit := by
      rw [← Text.length_utf8] at fits ⊢
      rw [spelled, List.length_append] at fits
      omega
    obtain ⟨between, first, shows''⟩ := run_chunk shows' starts so_far part_fits small
    have last (none : rest = []) : part = whole := by
      rw [none, List.flatten_nil, List.append_nil] at spelled
      exact (Text.utf8_injective spelled).symm
    have later (k : Nat) : ∃ more, Text.utf8 more = Text.utf8 part ++ (rest.take k).flatten := by
      obtain ⟨more, same⟩ := parts (k + 1)
      rw [List.take_succ_cons, List.flatten_cons, ← List.append_assoc, ← so_far] at same
      exact ⟨more, same⟩
    obtain ⟨after, ran, shown⟩ := ih shows'' (List.prefix_refl _) last spelled later
    refine ⟨after, ?_, shown⟩
    rw [so_far, List.length_append] at ran
    rw [← ran]
    exact Attempt.run_bind_of first _

/-- Chunks from the first byte on replace what was there. -/
theorem run_chunks_from_start {hub : Hub} {old whole : String} {chunks : List Bytes}
    (shows' : hub.Shows id (.string old)) (some : chunks ≠ []) (spelled : Text.utf8 whole = chunks.flatten)
    (parts : ∀ k, ∃ part, Text.utf8 part = (chunks.take k).flatten) (fits : whole.utf8ByteSize ≤ limit)
    (small : limit < UInt64.size) :
    ∃ after, (writeChunks id limit 0 chunks).run.run hub = (.ok (), after) ∧ after.Shows id (.string whole) :=
  run_chunks shows' List.nil_prefix (fun none => absurd none some) spelled parts fits small

end Chunks

/-- What becomes of a text of which the chunks are the bytes. -/
structure Delivers (hub : Hub) (id : CellId) (limit : Nat) (text : String) (chunks : List Bytes) : Prop where
  at_once : ∃ after, (writeCharacteristic id (Text.utf8 text) 0 limit).run.run hub =
    (.ok (Text.utf8 text).length, after) ∧ after.value id = .string text
  unbroken : Text.Unbroken text chunks →
    ∃ after, (writeChunks id limit 0 chunks).run.run hub = (.ok (), after) ∧ after.value id = .string text
  broken : ∀ before chunk rest, chunks = before ++ chunk :: rest → Text.Unbroken text before →
    ¬(⟨(before ++ [chunk]).flatten.length⟩ : String.Pos.Raw).IsValid text →
      ∃ after, (writeChunks id limit 0 chunks).run.run hub = (.error .valueNotAllowed, after) ∧
        (before = [] → after.value id = hub.value id) ∧
        (before ≠ [] → ∃ part, Text.utf8 part = before.flatten ∧ after.value id = .string part)

theorem Shows.delivers {hub : Hub} {id : CellId} {old text : String} (shows' : hub.Shows id (.string old))
    {limit : Nat} (small : limit < UInt64.size) (fits : text.utf8ByteSize ≤ limit) {chunks : List Bytes}
    (some : chunks ≠ []) (whole : chunks.flatten = Text.utf8 text) : hub.Delivers id limit text chunks where
  at_once := by
    have spelled : Text.utf8 text = [] ++ Text.utf8 text := rfl
    obtain ⟨after, ran, shown⟩ := run_chunk shows' List.nil_prefix spelled fits small
    exact ⟨after, ran, shown.value⟩
  unbroken := by
    intro unbroken
    have parts := unbroken.parts (whole ▸ List.prefix_refl _)
    obtain ⟨after, ran, shown⟩ := run_chunks_from_start shows' some whole.symm parts fits small
    exact ⟨after, ran, shown.value⟩
  broken := by
    rintro before chunk rest rfl unbroken inside
    have cut : (before ++ [chunk]).flatten <+: Text.utf8 text := by
      refine ⟨rest.flatten, ?_⟩
      rw [← whole, ← List.flatten_append, List.append_assoc, List.singleton_append]
    have garbled (part : String) : Text.utf8 part ≠ before.flatten ++ chunk := by
      intro spelled
      refine inside ((Text.isValid_iff_exists_utf8 cut).mpr ⟨part, ?_⟩)
      rw [spelled, List.flatten_append, List.flatten_singleton]
    have long : before.flatten.length + chunk.length ≤ limit := by
      have bound := cut.length_le
      rw [List.flatten_append, List.flatten_singleton, List.length_append, Text.length_utf8] at bound
      omega
    by_cases first : before = []
    · subst first
      obtain ⟨after, ran, only⟩ := run_chunk_of_garbled shows' List.nil_prefix garbled long small
      refine ⟨after, run_writeChunks_of_error ran rest, fun _ => ?_, fun there => absurd rfl there⟩
      obtain ⟨lines, rfl⟩ := only
      rfl
    · have starts : before.flatten <+: Text.utf8 text := by
        refine List.IsPrefix.trans ⟨chunk, ?_⟩ cut
        rw [List.flatten_append, List.flatten_singleton]
      have parts := unbroken.parts starts
      obtain ⟨part, spelled⟩ := parts before.length
      rw [List.take_length] at spelled
      have part_fits : part.utf8ByteSize ≤ limit := by
        rw [← Text.length_utf8, spelled]
        omega
      obtain ⟨between, ran, shown⟩ := run_chunks_from_start shows' first spelled parts part_fits small
      rw [← spelled] at garbled long
      obtain ⟨after, refused, only⟩ := run_chunk_of_garbled shown (List.prefix_refl _) garbled long small
      rw [spelled] at refused
      refine ⟨after, ?_, fun none => absurd none first, fun _ => ⟨part, spelled, ?_⟩⟩
      · rw [run_writeChunks_append ran, Nat.zero_add]
        exact run_writeChunks_of_error refused rest
      · obtain ⟨lines, rfl⟩ := only
        exact shown.value

/-- Writes go over the bytes of scalars, replace the ends of strings and leave events alone. A string of at most the
limit that is written in chunks is the same as written at once if no chunk ends inside a character; otherwise the
first chunk that does is refused, and the cell keeps what the chunks before it left. That cells hold values of their
kinds is true of every hub that an application makes out of a new one, see `coherent_run`. -/
theorem writes_splice {hub : Hub} (coherent : hub.Coherent) {id : CellId} (known : id < hub.cells.size) :
    (∀ data offset limit, hub.WritesExactly id data offset limit
      ((writeCharacteristic id data offset limit).run.run hub).1
      ((writeCharacteristic id data offset limit).run.run hub).2) ∧
    ((hub.cell id).kind = .string → ∀ limit < UInt64.size, ∀ text : String, text.utf8ByteSize ≤ limit →
      ∀ chunks ≠ [], chunks.flatten = Text.utf8 text → hub.Delivers id limit text chunks) := by
  refine ⟨fun data offset limit => coherent.writesExactly known rfl, ?_⟩
  intro string limit small text fits chunks some whole
  have shows' := coherent.shows known
  have sort := coherent.kind_value id
  rw [string] at sort
  cases held : hub.value id with
  | string old =>
    rw [held] at shows'
    exact shows'.delivers small fits some whole
  | _ =>
    rw [held] at sort
    cases sort

/-- A new hub with a string in it. -/
def padded : Hub := ((newCell "name" (.string "pad")).run (fresh .standard)).2

theorem writes_splice_padded :
    ((writeCharacteristic 0 [0x21] 3 8).run.run padded).1 = .ok 1 ∧
      ((writeCharacteristic 0 [0x21] 3 8).run.run padded).2.value 0 = .string "pad!" ∧
      (∃ after, (writeChunks 0 8 0 [[0x6B], [0xC3, 0xA9]]).run.run padded = (.ok (), after) ∧
        after.value 0 = .string "ké") ∧
      ∃ after, (writeChunks 0 8 0 [[0x6B, 0xC3], [0xA9]]).run.run padded = (.error .valueNotAllowed, after) ∧
        after.value 0 = .string "pad" := by
  have coherent : padded.Coherent := frame_coherent.newCell "name" (.string "pad") _ (coherent_fresh .standard)
  have string : (padded.cell 0).kind = .string := by decide +kernel
  have pad : padded.value 0 = .string "pad" := by decide +kernel
  have known : 0 < padded.cells.size := by decide +kernel
  obtain ⟨single, chunked⟩ := writes_splice coherent known
  have small : 8 < UInt64.size := by decide
  have short : "ké".utf8ByteSize ≤ 8 := by decide +kernel
  obtain ⟨done, shown⟩ := (single [0x21] 3 8).string string (by rw [pad, Room]; decide +kernel) "pad!"
    (by rw [pad]; decide +kernel)
  refine ⟨done, shown, ?_, ?_⟩
  · refine (chunked string 8 small "ké" short [[0x6B], [0xC3, 0xA9]] (by decide) (by decide +kernel)).unbroken ?_
    intro k
    match k with
    | 0 => decide +kernel
    | 1 => decide +kernel
    | k + 2 =>
      rw [List.take_of_length_le (Nat.le_add_left 2 k)]
      decide +kernel
  · obtain ⟨after, ran, kept, -⟩ :=
      (chunked string 8 small "ké" short [[0x6B, 0xC3], [0xA9]] (by decide) (by decide +kernel)).broken
        [] [0x6B, 0xC3] [[0xA9]] rfl (fun k => by rw [List.take_nil]; decide +kernel) (by decide +kernel)
    exact ⟨after, ran, (kept rfl).trans pad⟩

end Hub

end LeafHub
