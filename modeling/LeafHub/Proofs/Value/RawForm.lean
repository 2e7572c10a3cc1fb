import LeafHub.Value.Raw

namespace LeafHub

namespace Text

/-- The text without a NUL at its end, if there is one; only one is dropped. -/
def dropNul (text : String) : String :=
  if text.toList.getLast? = some '\x00' then .ofList text.toList.dropLast else text

theorem utf8_ofList (cs : List Char) : utf8 (.ofList cs) = cs.flatMap String.utf8EncodeChar := by
  simp [utf8, String.toByteArray_ofList, List.utf8Encode]

/-- No other character has a zero byte at its end. -/
theorem getLast?_utf8EncodeChar (c : Char) : (String.utf8EncodeChar c).getLast? = some 0 ↔ c = '\x00' := by
  have nul : c = '\x00' ↔ c.val.toNat = 0 := by
    rw [← Char.val_inj, ← UInt32.toNat_inj]
    rfl
  have small (n : Nat) : UInt8.ofNat n = 0 ↔ n % 256 = 0 := by simp [← UInt8.toNat_inj]
  rw [nul]
  fun_cases String.utf8EncodeChar c <;>
    simp only [List.getLast?_cons, List.getLast?_nil, Option.getD_none, Option.getD_some, Option.some.injEq, small] <;>
    omega

end Text

open Text in
theorem dropTerminator_utf8 (text : String) : dropTerminator (utf8 text) = utf8 (dropNul text) := by
  have whole : utf8 text = text.toList.flatMap String.utf8EncodeChar := by
    rw [← utf8_ofList, String.ofList_toList]
  unfold dropTerminator dropNul
  rw [whole]
  rcases List.eq_nil_or_concat text.toList with none | ⟨front, c, ended⟩
  · simp [none, whole]
  · have closing : (text.toList.flatMap String.utf8EncodeChar).getLast? = some 0 ↔ c = '\x00' := by
      rw [ended, List.concat_eq_append, List.flatMap_append, List.flatMap_singleton, List.getLast?_append,
        ← getLast?_utf8EncodeChar c, List.getLast?_eq_some_getLast String.utf8EncodeChar_ne_nil, Option.some_or]
    by_cases nul : c = '\x00'
    · rw [if_pos (closing.mpr nul), if_pos (by simp [ended, nul]), ended, utf8_ofList, nul]
      simp [String.utf8EncodeChar]
    · rw [if_neg (mt closing.mp nul), if_neg (by simp [ended, nul]), whole]

/-- What comes back of a value from its raw form. -/
def Value.reloaded : Value → Value
  | .string text => .string (Text.dropNul text)
  | value => value

/-- Reading undoes writing, up to a NUL at the end of a string. -/
theorem Value.ofRaw_raw (value : Value) : value.kind.ofRaw value.raw = .ok value.reloaded := by
  cases value with
  | string text => simp [kind, Kind.ofRaw, Kind.width, raw, reloaded, dropTerminator_utf8]
  | bool b => cases b <;> rfl
  | byte n => simp [kind, Kind.ofRaw, Kind.width, raw, reloaded, Kind.scalarOfRaw, ofLittleEndian]
  | uint16 n => simp [kind, Kind.ofRaw, Kind.width, raw, reloaded, Kind.scalarOfRaw, ofLittleEndian_littleEndian, span]
  | int16 n => simp [kind, Kind.ofRaw, Kind.width, raw, reloaded, Kind.scalarOfRaw, ofLittleEndian_littleEndian, span]
  | int32 n => simp [kind, Kind.ofRaw, Kind.width, raw, reloaded, Kind.scalarOfRaw, ofLittleEndian_littleEndian, span]
  | int64 n => simp [kind, Kind.ofRaw, Kind.width, raw, reloaded, Kind.scalarOfRaw, ofLittleEndian_littleEndian, span]
  | event bits => simp [kind, Kind.ofRaw, Kind.width, raw, reloaded, Kind.scalarOfRaw, ofLittleEndian_littleEndian, span]

end LeafHub
