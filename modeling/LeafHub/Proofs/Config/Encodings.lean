import LeafHub.Proofs.Config.BlobForm
import LeafHub.Proofs.Config.DocumentForm

namespace LeafHub.Config

/-- Groups of seven bits, the least significant first. Every group but the last carries the flag 128. -/
inductive Groups : Bytes → Nat → Prop
  | last {b : UInt8} : b.toNat < 128 → Groups [b] b.toNat
  | more {b : UInt8} {bytes : Bytes} {n : Nat} : 128 ≤ b.toNat → Groups bytes n →
    Groups (b :: bytes) (b.toNat - 128 + 128 * n)

/-- The bytes are a varint of at most `bits` bits: its number fits, and it has no more groups than the bits need. -/
structure VarintOf (bits : Nat) (bytes : Bytes) (n : Nat) : Prop where
  groups : Groups bytes n
  fits : n < 2 ^ bits
  length : 7 * bytes.length < bits + 7

theorem Groups.ne_nil {bytes : Bytes} {n : Nat} (groups : Groups bytes n) : bytes ≠ [] := by
  cases groups <;> simp

theorem varintOf_last {bits n : Nat} {b : UInt8} {bytes : Bytes} (last : b.toNat < 128) :
    VarintOf bits (b :: bytes) n ↔ bytes = [] ∧ n = b.toNat ∧ 0 < bits ∧ b.toNat < 2 ^ bits := by
  constructor
  · rintro ⟨groups, fits, length⟩
    rw [List.length_cons] at length
    cases groups with
    | last => exact ⟨rfl, rfl, by omega, fits⟩
    | more flagged => omega
  · rintro ⟨rfl, rfl, wide, fits⟩
    exact ⟨.last last, fits, by simpa using wide⟩

theorem varintOf_more {bits n : Nat} {b : UInt8} {bytes : Bytes} (flagged : 128 ≤ b.toNat) :
    VarintOf bits (b :: bytes) n ↔ 7 < bits ∧ ∃ m, VarintOf (bits - 7) bytes m ∧ n = b.toNat - 128 + 128 * m := by
  have scale : 7 < bits → 2 ^ bits = 128 * 2 ^ (bits - 7) := by
    intro wide
    rw [show (128 : Nat) = 2 ^ 7 from rfl, ← Nat.pow_add]
    congr 1
    omega
  have byte := b.toNat_lt
  constructor
  · rintro ⟨groups, fits, length⟩
    rw [List.length_cons] at length
    cases groups with
    | last small => omega
    | @more _ _ m _ groups =>
      have nonempty := List.length_pos_iff.mpr groups.ne_nil
      have wide : 7 < bits := by omega
      rw [scale wide] at fits
      exact ⟨wide, m, ⟨groups, by omega, by omega⟩, rfl⟩
  · rintro ⟨wide, m, ⟨groups, fits, length⟩, rfl⟩
    refine ⟨.more flagged groups, ?_, ?_⟩
    · rw [scale wide]
      omega
    · rw [List.length_cons]
      omega

/-- The last group is read if it does not reach past the last bit. -/
theorem varintFrom?_last_iff {bits shift m : Nat} {b : UInt8} {bytes rest : Bytes} (last : b.toNat < 128) :
    varintFrom? bits shift (b :: bytes) = some (m, rest) ↔
      b.toNat < 2 ^ (bits - shift) ∧ m = b.toNat <<< shift ∧ bytes = rest := by
  rw [varintFrom?, if_pos last, Nat.one_shiftLeft]
  split
  · rename_i fits
    rw [Option.some_inj, Prod.mk.injEq, eq_comm]
    exact (and_iff_right fits).symm
  · rename_i wide
    exact iff_of_false (Option.some_ne_none _).symm fun read => wide read.1

/-- Any other group stands in front of what is read behind it. -/
theorem varintFrom?_more_iff {bits shift m : Nat} {b : UInt8} {bytes rest : Bytes} (flagged : 128 ≤ b.toNat) :
    varintFrom? bits shift (b :: bytes) = some (m, rest) ↔
      shift + 7 < bits ∧ ∃ n, varintFrom? bits (shift + 7) bytes = some (n, rest) ∧
        m = (b.toNat - 128) <<< shift + n := by
  rw [varintFrom?, if_neg (Nat.not_lt.mpr flagged)]
  split
  · rename_i more
    rw [and_iff_right more]
    cases varintFrom? bits (shift + 7) bytes with
    | none => simp
    | some found =>
      obtain ⟨n, tail⟩ := found
      constructor
      · intro read
        cases read
        exact ⟨n, rfl, rfl⟩
      · rintro ⟨_, same, rfl⟩
        cases same
        rfl
  · rename_i full
    exact iff_of_false (Option.some_ne_none _).symm fun read => full read.1

/-- Reading from a later group on takes a varint of the bits that are left, and puts it at the place of the group. -/
theorem varintFrom?_eq_some_iff {bits shift m : Nat} {bytes rest : Bytes} (inside : shift < bits) :
    varintFrom? bits shift bytes = some (m, rest) ↔
      ∃ front n, bytes = front ++ rest ∧ VarintOf (bits - shift) front n ∧ m = n <<< shift := by
  induction bytes generalizing shift m with
  | nil =>
    constructor
    · nofun
    · rintro ⟨front, n, whole, read, -⟩
      exact absurd (List.append_eq_nil_iff.mp whole.symm).1 read.groups.ne_nil
  | cons b bytes ih =>
    have shifted (n : Nat) : (b.toNat - 128) <<< shift + n <<< (shift + 7) = (b.toNat - 128 + 128 * n) <<< shift := by
      simp only [Nat.add_comm shift 7, Nat.shiftLeft_add, Nat.shiftLeft_eq _ shift, ← Nat.add_mul]
      congr 1
      omega
    -- whatever is read starts with the first byte
    have cut {front : Bytes} {n : Nat} (whole : b :: bytes = front ++ rest) (varint : VarintOf (bits - shift) front n) :
        ∃ later, front = b :: later ∧ bytes = later ++ rest := by
      obtain ⟨c, later, rfl⟩ := List.exists_cons_of_ne_nil varint.groups.ne_nil
      obtain ⟨rfl, rfl⟩ := List.cons.inj whole
      exact ⟨later, rfl, rfl⟩
    rcases Nat.lt_or_ge b.toNat 128 with last | flagged
    · rw [varintFrom?_last_iff last]
      constructor
      · rintro ⟨fits, rfl, rfl⟩
        exact ⟨[b], b.toNat, rfl, (varintOf_last last).mpr ⟨rfl, rfl, by omega, fits⟩, rfl⟩
      · rintro ⟨front, n, whole, varint, rfl⟩
        obtain ⟨later, rfl, rfl⟩ := cut whole varint
        obtain ⟨rfl, rfl, -, fits⟩ := (varintOf_last last).mp varint
        exact ⟨fits, rfl, rfl⟩
    · rw [varintFrom?_more_iff flagged]
      constructor
      · rintro ⟨more, _, found, rfl⟩
        obtain ⟨front, n, rfl, group, rfl⟩ := (ih more).mp found
        rw [← Nat.sub_sub] at group
        exact ⟨b :: front, _, rfl, (varintOf_more flagged).mpr ⟨by omega, n, group, rfl⟩, shifted n⟩
      · rintro ⟨front, n, whole, varint, rfl⟩
        obtain ⟨later, rfl, rfl⟩ := cut whole varint
        obtain ⟨wide, m, group, rfl⟩ := (varintOf_more flagged).mp varint
        rw [Nat.sub_sub] at group
        have more : shift + 7 < bits := by omega
        exact ⟨more, _, (ih more).mpr ⟨later, m, rfl, group, rfl⟩, (shifted m).symm⟩

theorem varint?_eq_some_iff {bits n : Nat} {bytes rest : Bytes} (wide : 0 < bits) :
    varint? bits bytes = some (n, rest) ↔ ∃ front, bytes = front ++ rest ∧ VarintOf bits front n := by
  rw [varint?, varintFrom?_eq_some_iff wide]
  simp

theorem VarintOf.read {bits n : Nat} {bytes : Bytes} (varint : VarintOf bits bytes n) (wide : 0 < bits) (rest : Bytes) :
    varint? bits (bytes ++ rest) = some (n, rest) :=
  (varint?_eq_some_iff wide).mpr ⟨bytes, rfl, varint⟩

/-- A text with its length in bytes in front. -/
def TextOf (bytes : Bytes) (text : String) : Prop :=
  ∃ front, bytes = front ++ Text.utf8 text ∧ VarintOf 64 front text.utf8ByteSize

theorem TextOf.read {limit : Nat} {bytes : Bytes} {text : Bounded limit} (written : TextOf bytes text.text) (rest : Bytes) :
    textBlob? limit (bytes ++ rest) = some (text, rest) := by
  obtain ⟨front, rfl, varint⟩ := written
  have room : ¬(Text.utf8 text.text ++ rest).length < (Text.utf8 text.text).length := by
    rw [List.length_append]
    omega
  rw [textBlob?, List.append_assoc, varint.read (by decide), Option.bind_eq_bind, Option.bind_some]
  simp only [← Text.length_utf8, if_neg room, List.take_left', List.drop_left', Text.utf8?_utf8, Bounded.of?_text,
    Option.bind_eq_bind, Option.bind_some]

theorem textBlob?_eq_some_iff {limit : Nat} {bytes rest : Bytes} {text : Bounded limit} :
    textBlob? limit bytes = some (text, rest) ↔ ∃ front, bytes = front ++ rest ∧ TextOf front text.text := by
  constructor
  · intro found
    unfold textBlob? at found
    obtain ⟨⟨size, more⟩, length, checked⟩ := Option.bind_eq_some_iff.mp found
    obtain ⟨front, rfl, varint⟩ := (varint?_eq_some_iff (by decide)).mp length
    simp only at checked
    split at checked
    · cases checked
    · rename_i enough
      obtain ⟨whole, decoded, checked⟩ := Option.bind_eq_some_iff.mp checked
      obtain ⟨bounded, fits, checked⟩ := Option.bind_eq_some_iff.mp checked
      cases checked
      cases Bounded.of?_eq_some_iff.mp fits
      have taken := Text.utf8?_eq_some_iff.mp decoded
      have announced : size = text.text.utf8ByteSize := by
        rw [← Text.length_utf8, ← taken, List.length_take]
        omega
      refine ⟨front ++ Text.utf8 text.text, ?_, front, rfl, announced ▸ varint⟩
      rw [← taken, List.append_assoc, List.take_append_drop]
  · rintro ⟨front, rfl, written⟩
    exact written.read rest

/-- The parts of the binary form, one after the other. -/
inductive Encodes : Bytes → Fields → Prop
  | intro {a b c d e f : Bytes} {last : UInt8} {fields : Fields} :
    VarintOf 32 a fields.registryLockMs → VarintOf 32 b fields.valueLockMs → TextOf c fields.nameBase →
    TextOf d fields.settingsNamespace → VarintOf 16 e fields.stringWriteMax → VarintOf 16 f fields.workerStackKb →
    last.toNat = fields.workerPriority → Encodes (a ++ b ++ c ++ d ++ e ++ f ++ [last]) fields

/-- Bytes are accepted when they start with the binary form of fields in their ranges, and they are read as the configuration
with these fields. -/
theorem ofBlob?_eq_some_iff {bytes : Bytes} {config : Config} :
    ofBlob? bytes = some config ↔
      ∃ front rest fields, bytes = front ++ rest ∧ Encodes front fields ∧ fields.InRange ∧ config.fields = fields := by
  constructor
  · intro read
    simp only [ofBlob?, Option.bind_eq_bind, Option.bind_eq_some_iff, Prod.exists, varint?_eq_some_iff (by decide : 0 < 32),
      varint?_eq_some_iff (by decide : 0 < 16), textBlob?_eq_some_iff, List.head?_eq_some_iff] at read
    obtain ⟨registryLock, _, ⟨a, rfl, first⟩, valueLock, _, ⟨b, rfl, second⟩, nameBase, _, ⟨c, rfl, third⟩,
      settingsNamespace, _, ⟨d, rfl, fourth⟩, stringWriteMax, _, ⟨e, rfl, fifth⟩, workerStack, _, ⟨f, rfl, sixth⟩,
      last, ⟨rest, rfl⟩, same⟩ := read
    cases same
    refine ⟨a ++ b ++ c ++ d ++ e ++ f ++ [last], rest, ⟨registryLock, valueLock, nameBase.text, settingsNamespace.text,
      stringWriteMax, workerStack, last.toNat⟩, by simp, .intro first second third fourth fifth sixth rfl,
      ⟨first.fits, second.fits, nameBase.fits, settingsNamespace.fits, fifth.fits, sixth.fits, last.toNat_lt⟩, ?_⟩
    simp only [Config.fields, UInt32.toNat_ofNat_of_lt' first.fits, UInt32.toNat_ofNat_of_lt' second.fits,
      UInt16.toNat_ofNat_of_lt' fifth.fits, UInt16.toNat_ofNat_of_lt' sixth.fits]
  · rintro ⟨front, rest, _, rfl, encoded, -, rfl⟩
    obtain ⟨first, second, third, fourth, fifth, sixth, last⟩ := encoded
    simp only [ofBlob?, List.append_assoc, first.read (by decide : 0 < 32), second.read (by decide : 0 < 32),
      @TextOf.read _ _ config.nameBase third, @TextOf.read _ _ config.settingsNamespace fourth,
      fifth.read (by decide : 0 < 16), sixth.read (by decide : 0 < 16), Option.bind_eq_bind, Option.bind_some,
      List.singleton_append, List.head?_cons, UInt8.toNat_inj.mp last, Config.fields, UInt32.ofNat_toNat, UInt16.ofNat_toNat]

/-- Every configuration reads back from its compact document, from an object of its members in any order, from the array of its
values and from its binary form, whatever follows it there. What is accepted, as a document or as bytes, says that the fields
are numbers and texts in their ranges, and reads as the configuration with these fields. -/
theorem encodings_read_back (config : Config) :
    ofDocument? config.document = some config ∧
      (∀ members : List (String × List Char), members.Perm config.members →
        ofDocument? (String.ofList (Json.writeObject members)) = some config) ∧
      ofDocument? (String.ofList (Json.writeArray (config.members.map Prod.snd))) = some config ∧
      (∀ rest, ofBlob? (config.blob ++ rest) = some config) ∧
      (∀ text, ofDocument? text = some config ↔
        ∃ json fields, Json.read? text = some json ∧ Describes json fields ∧ fields.InRange ∧ config.fields = fields) ∧
      ∀ bytes, ofBlob? bytes = some config ↔
        ∃ front rest fields, bytes = front ++ rest ∧ Encodes front fields ∧ fields.InRange ∧ config.fields = fields :=
  ⟨ofDocument?_writeObject (.refl _), fun _ order => ofDocument?_writeObject order, ofDocument?_writeArray config,
    ofBlob?_blob config, fun _ => ofDocument?_eq_some_iff, fun _ => ofBlob?_eq_some_iff⟩

/-- A configuration whose name needs every kind of escape, and whose numbers are the largest that there are. -/
def escaped : Config where
  registryLockMs := 4294967295
  valueLockMs := 0
  nameBase := ⟨"\"\\/\n\x01é€", by decide +kernel⟩
  settingsNamespace := ⟨"", by decide⟩
  stringWriteMax := 65535
  workerStackKb := 300
  workerPriority := 255

theorem encodings_read_back_escaped :
    ofDocument? (String.ofList (Json.writeObject escaped.members.reverse)) = some escaped ∧
      ofBlob? (escaped.blob ++ [0, 255]) = some escaped ∧
      Json.writeString escaped.nameBase.text = "\"\\\"\\\\/\\n\\u0001é€\"".toList := by
  obtain ⟨-, inAnyOrder, -, followed, -⟩ := encodings_read_back escaped
  exact ⟨inAnyOrder escaped.members.reverse (List.reverse_perm _), followed [0, 255], by decide +kernel⟩

end LeafHub.Config
