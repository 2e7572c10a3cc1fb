import LeafHub.Config.Blob

namespace LeafHub.Config

/-- Reading a number that fits undoes writing it. The number that is written from a later group on is the rest of
the division by `1 <<< 7`, and it has the bits that are left. -/
theorem varintFrom?_varint {bits shift n : Nat} (fits : n < 1 <<< (bits - shift)) (rest : Bytes) :
    varintFrom? bits shift (varint n ++ rest) = some (n <<< shift, rest) := by
  induction n using Nat.strongRecOn generalizing shift with
  | ind n ih =>
    rw [varint]
    split
    · rename_i small
      have byte : (UInt8.ofNat n).toNat = n := by simp; omega
      rw [List.singleton_append, varintFrom?, byte, if_pos small, if_pos fits]
    · rename_i large
      have byte : (UInt8.ofNat (n % 128 + 128)).toNat = n % 128 + 128 := by simp; omega
      have room : shift + 7 < bits := by
        refine Nat.not_le.mp fun full => ?_
        have few : 1 <<< (bits - shift) ≤ 1 <<< 7 := by
          rw [Nat.one_shiftLeft, Nat.one_shiftLeft]
          exact Nat.pow_le_pow_right (by decide) (by omega)
        omega
      have remaining : n / 128 < 1 <<< (bits - (shift + 7)) := by
        have split : 1 <<< (bits - shift) = 1 <<< (bits - (shift + 7)) <<< 7 := by
          rw [← Nat.shiftLeft_add]
          congr 1
          omega
        omega
      have value : (n % 128 + 128 - 128) <<< shift + (n / 128) <<< (shift + 7) = n <<< shift := by
        simp only [Nat.add_comm shift 7, Nat.shiftLeft_add, Nat.shiftLeft_eq _ shift, ← Nat.add_mul]
        congr 1
        omega
      rw [List.cons_append, varintFrom?, byte, if_neg (by omega), if_pos room, ih (n / 128) (by omega) remaining]
      simp only [value]

theorem varint?_varint {bits n : Nat} (fits : n < 1 <<< bits) (rest : Bytes) :
    varint? bits (varint n ++ rest) = some (n, rest) :=
  varintFrom?_varint fits rest

/-- Every group holds seven bits. -/
theorem length_varint {n k : Nat} (fits : n < 1 <<< (7 * (k + 1))) : (varint n).length ≤ k + 1 := by
  induction k generalizing n with
  | zero =>
    rw [varint, if_pos (by omega)]
    exact Nat.le_refl 1
  | succ k ih =>
    rw [varint]
    split
    · simp
    · have rest : n / 128 < 1 <<< (7 * (k + 1)) := by
        rw [Nat.mul_succ, Nat.shiftLeft_add] at fits
        omega
      have short := ih rest
      rw [List.length_cons]
      omega

theorem textBlob?_textBlob {limit : Nat} (text : Bounded limit) (small : limit < 1 <<< 64) (rest : Bytes) :
    textBlob? limit (textBlob text.text ++ rest) = some (text, rest) := by
  have size : text.text.utf8ByteSize < 1 <<< 64 := Nat.lt_of_le_of_lt text.fits small
  have room : ¬ (Text.utf8 text.text ++ rest).length < (Text.utf8 text.text).length := by
    rw [List.length_append]
    omega
  unfold textBlob textBlob?
  rw [List.append_assoc, varint?_varint size, Option.bind_eq_bind, Option.bind_some]
  simp only [← Text.length_utf8, if_neg room, List.take_left', List.drop_left', Text.utf8?_utf8,
    Bounded.of?_text, Option.bind_eq_bind, Option.bind_some]

theorem length_textBlob {limit : Nat} (text : Bounded limit) (small : limit < 128) :
    (textBlob text.text).length ≤ limit + 1 := by
  have fits := text.fits
  have front : (varint text.text.utf8ByteSize).length ≤ 1 := length_varint (k := 0) (by omega)
  rw [textBlob, List.length_append, Text.length_utf8]
  omega

/-- The binary form says everything about a configuration, and what follows it does not matter. -/
theorem ofBlob?_blob (config : Config) (rest : Bytes) : ofBlob? (config.blob ++ rest) = some config := by
  unfold blob ofBlob?
  simp only [List.append_assoc, @varint?_varint 32 _ config.registryLockMs.toNat_lt,
    @varint?_varint 32 _ config.valueLockMs.toNat_lt, @varint?_varint 16 _ config.stringWriteMax.toNat_lt,
    @varint?_varint 16 _ config.workerStackKb.toNat_lt, textBlob?_textBlob _ (by decide : 12 < 1 <<< 64),
    textBlob?_textBlob _ (by decide : 15 < 1 <<< 64), Option.bind_eq_bind, Option.bind_some, List.singleton_append,
    List.head?_cons, UInt32.ofNat_toNat, UInt16.ofNat_toNat]

theorem length_blob (config : Config) : config.blob.length ≤ 46 := by
  have registryLock := length_varint (k := 4) (Nat.lt_of_lt_of_le config.registryLockMs.toNat_lt (by decide))
  have valueLock := length_varint (k := 4) (Nat.lt_of_lt_of_le config.valueLockMs.toNat_lt (by decide))
  have nameBase := length_textBlob config.nameBase (by decide)
  have settingsNamespace := length_textBlob config.settingsNamespace (by decide)
  have stringWriteMax := length_varint (k := 2) (Nat.lt_of_lt_of_le config.stringWriteMax.toNat_lt (by decide))
  have workerStack := length_varint (k := 2) (Nat.lt_of_lt_of_le config.workerStackKb.toNat_lt (by decide))
  simp only [blob, List.length_append, List.length_singleton]
  omega

end LeafHub.Config
