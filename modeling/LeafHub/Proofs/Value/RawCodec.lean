import LeafHub.Proofs.Value.Number
import LeafHub.Proofs.Value.RawForm

namespace LeafHub

namespace Kind

/-- Whether bytes are the raw form of a value of this kind, or may pass for one. -/
def Admits (kind : Kind) (raw : Bytes) : Prop :=
  match kind.width with
  | some width => raw.length = width
  | none => ∃ text, dropTerminator raw = Text.utf8 text

/-- How the bytes that are read as a value of this kind are written again. -/
def tidied : Kind → Bytes → Bytes
  | .bool, raw => raw.map fun b => if b = 0 then 0 else 1
  | .string, raw => dropTerminator raw
  | _, raw => raw

theorem ofRaw_of_width {kind : Kind} {width : Nat} (wide : kind.width = some width) (raw : Bytes) : kind.ofRaw raw =
    if raw.length = width then .ok (kind.scalarOfRaw raw) else .error (.invalidLength width raw.length) := by
  unfold ofRaw
  rw [wide]

theorem ofRaw_string (raw : Bytes) : Kind.string.ofRaw raw =
    match Text.utf8? (dropTerminator raw) with
    | some text => .ok (.string text)
    | none => .error .invalidValue := rfl

theorem littleEndian_of_eq {raw : Bytes} {width n : Nat} (sized : width = raw.length) (same : n = ofLittleEndian raw) :
    littleEndian width n = raw := by
  rw [sized, same]
  exact littleEndian_ofLittleEndian raw

/-- Bytes of the width are the raw form of the number that they stand for, in the range of every word so wide. -/
theorem raw_scalarOfRaw {kind : Kind} {raw : Bytes} (wide : kind.width = some raw.length) :
    (kind.scalarOfRaw raw).raw = kind.tidied raw := by
  have small := ofLittleEndian_lt raw
  cases kind with
  | string => cases wide
  | bool =>
    have one : raw.length = 1 := (Option.some.inj wide).symm
    obtain ⟨b, rfl⟩ := List.length_eq_one_iff.mp one
    have same : ofLittleEndian [b] = 0 ↔ b = 0 := by
      rw [← UInt8.toNat_inj]
      simp [ofLittleEndian]
    by_cases zero : b = 0
    · subst zero
      rfl
    · simp [scalarOfRaw, Value.raw, tidied, same, zero]
  | byte =>
    have one : raw.length = 1 := (Option.some.inj wide).symm
    obtain ⟨b, rfl⟩ := List.length_eq_one_iff.mp one
    simp [scalarOfRaw, Value.raw, tidied, ofLittleEndian]
  | uint16 | int16 =>
    have two : 2 = raw.length := Option.some.inj wide
    rw [← two] at small
    exact littleEndian_of_eq two (UInt16.toNat_ofNat_of_lt' small)
  | int32 | event =>
    have four : 4 = raw.length := Option.some.inj wide
    rw [← four] at small
    exact littleEndian_of_eq four (UInt32.toNat_ofNat_of_lt' small)
  | int64 =>
    have eight : 8 = raw.length := Option.some.inj wide
    rw [← eight] at small
    exact littleEndian_of_eq eight (UInt64.toNat_ofNat_of_lt' small)

/-- What is read is of the kind, and is written as it was, but tidied. -/
theorem raw_of_ofRaw {kind : Kind} {raw : Bytes} {value : Value} (read : kind.ofRaw raw = .ok value) :
    value.raw = kind.tidied raw := by
  cases wide : kind.width with
  | some width =>
    rw [ofRaw_of_width wide] at read
    split at read
    · rename_i sized
      cases read
      exact raw_scalarOfRaw (by rw [wide, sized])
    · cases read
  | none =>
    cases width_eq_none_iff.mp wide
    rw [ofRaw_string] at read
    split at read
    · rename_i text found
      cases read
      exact (Text.utf8?_eq_some_iff.mp found).symm
    · cases read

theorem exists_ofRaw_iff {kind : Kind} {raw : Bytes} : (∃ value, kind.ofRaw raw = .ok value) ↔ kind.Admits raw := by
  unfold Admits
  cases wide : kind.width with
  | some width =>
    dsimp only
    rw [ofRaw_of_width wide]
    by_cases sized : raw.length = width
    · simp [sized]
    · simp [sized]
  | none =>
    cases width_eq_none_iff.mp wide
    dsimp only
    rw [ofRaw_string]
    constructor
    · rintro ⟨value, read⟩
      split at read
      · rename_i text found
        exact ⟨text, Text.utf8?_eq_some_iff.mp found⟩
      · cases read
    · rintro ⟨text, spelled⟩
      rw [Text.utf8?_eq_some_iff.mpr spelled]
      exact ⟨.string text, rfl⟩

/-- Why bytes that are not admitted are refused. -/
def rawRefusal (kind : Kind) (raw : Bytes) : Fault :=
  match kind.width with
  | some width => .invalidLength width raw.length
  | none => .invalidValue

theorem ofRaw_of_not_admits {kind : Kind} {raw : Bytes} (foreign : ¬kind.Admits raw) :
    kind.ofRaw raw = .error (kind.rawRefusal raw) := by
  unfold Admits at foreign
  unfold rawRefusal
  cases wide : kind.width with
  | some width =>
    rw [wide] at foreign
    rw [ofRaw_of_width wide, if_neg foreign]
  | none =>
    cases width_eq_none_iff.mp wide
    rw [ofRaw_string]
    cases found : Text.utf8? (dropTerminator raw) with
    | some text => exact absurd ⟨text, Text.utf8?_eq_some_iff.mp found⟩ foreign
    | none => rfl

end Kind

namespace Value

theorem reloaded_of_nul (text : String) : (Value.string (text ++ "\x00")).reloaded = .string text := by
  simp [reloaded, Text.dropNul]

theorem reloaded_eq_self {value : Value} (plain : ∀ text, value ≠ .string (text ++ "\x00")) :
    value.reloaded = value := by
  cases value with
  | string text =>
    have unended : text.toList.getLast? ≠ some '\x00' := by
      intro ended
      obtain ⟨front, whole⟩ := List.getLast?_eq_some_iff.mp ended
      have same : text = .ofList front ++ "\x00" := by
        rw [← String.toList_inj, whole]
        simp
      exact plain _ (congrArg _ same)
    rw [reloaded, Text.dropNul, if_neg unended]
  | _ => rfl

theorem exists_number? {value : Value} (sized : value.kind ≠ .string) : ∃ z, value.number? = some z := by
  cases value with
  | string text => exact absurd rfl sized
  | _ => exact ⟨_, rfl⟩

/-- Reading undoes writing, up to a NUL at the end of a string, and writing undoes reading, up to tidying. What a kind
does not admit is refused. Numbers of the whole range of a kind are written with their least digit first, in two's
complement. -/
theorem raw_form_both_ways :
    (∀ value : Value, value.kind.ofRaw value.raw = .ok value.reloaded ∧
      (∀ text, value = .string (text ++ "\x00") → value.reloaded = .string text) ∧
      ((∀ text, value ≠ .string (text ++ "\x00")) → value.reloaded = value)) ∧
    (∀ (kind : Kind) (raw : Bytes), ((∃ value, kind.ofRaw raw = .ok value) ↔ kind.Admits raw) ∧
      (¬kind.Admits raw → kind.ofRaw raw = .error (kind.rawRefusal raw)) ∧
      ∀ value, kind.ofRaw raw = .ok value → value.kind = kind ∧ value.raw = kind.tidied raw) ∧
    (∀ (kind : Kind) (z : Int), kind.Fits z ↔ ∃ value : Value, value.kind = kind ∧ value.number? = some z) ∧
    ∀ value : Value, value.kind ≠ .string → ∃ z, value.number? = some z ∧
      value.kind.width = some value.raw.length ∧
      ∀ place < value.raw.length, ∃ b, value.raw[place]? = some b ∧ (b.toNat : Int) = z / 256 ^ place % 256 := by
  refine ⟨fun value => ⟨value.ofRaw_raw, ?_, reloaded_eq_self⟩, fun kind raw => ?_, fun kind z => ?_,
    fun value sized => ?_⟩
  · rintro text rfl
    exact reloaded_of_nul text
  · refine ⟨Kind.exists_ofRaw_iff, Kind.ofRaw_of_not_admits, fun value read => ?_⟩
    exact ⟨Kind.kind_ofRaw read, Kind.raw_of_ofRaw read⟩
  · constructor
    · intro fits
      exact ⟨kind.ofNumber z, Kind.kind_ofNumber kind z, Kind.number?_ofNumber fits⟩
    · rintro ⟨value, rfl, number⟩
      exact fits_number number
  · obtain ⟨z, number⟩ := exists_number? sized
    obtain ⟨width, wide⟩ : ∃ width, value.kind.width = some width :=
      Option.ne_none_iff_exists'.mp fun none => sized (Kind.width_eq_none_iff.mp none)
    refine ⟨z, number, ?_, fun place inside => raw_place number inside⟩
    rw [wide, length_raw wide]

end Value

end LeafHub
