import Mathlib.Algebra.Group.Nat.Defs
import Mathlib.Algebra.Group.Int.Defs
import LeafHub.Value.Raw

namespace LeafHub

/-- The number that a value stands for. A string stands for none. -/
def Value.number? : Value → Option Int
  | .string _ => none
  | .bool b => some (if b then 1 else 0)
  | .byte n => some n.toNat
  | .uint16 n => some n.toNat
  | .int16 n => some n.toInt
  | .int32 n => some n.toInt
  | .int64 n => some n.toInt
  | .event bits => some bits.toNat

namespace Kind

/-- Whether a number is in the range of a kind. -/
def Fits : Kind → Int → Prop
  | .string, _ => False
  | .bool, z => 0 ≤ z ∧ z < 2
  | .byte, z => 0 ≤ z ∧ z < 2 ^ 8
  | .uint16, z => 0 ≤ z ∧ z < 2 ^ 16
  | .int16, z => -2 ^ 15 ≤ z ∧ z < 2 ^ 15
  | .int32, z => -2 ^ 31 ≤ z ∧ z < 2 ^ 31
  | .int64, z => -2 ^ 63 ≤ z ∧ z < 2 ^ 63
  | .event, z => 0 ≤ z ∧ z < 2 ^ 32

/-- The value of a kind for a number of its range. -/
def ofNumber : Kind → Int → Value
  | .string, _ => .string ""
  | .bool, z => .bool (z ≠ 0)
  | .byte, z => .byte (UInt8.ofNat z.toNat)
  | .uint16, z => .uint16 (UInt16.ofNat z.toNat)
  | .int16, z => .int16 (Int16.ofInt z)
  | .int32, z => .int32 (Int32.ofInt z)
  | .int64, z => .int64 (Int64.ofInt z)
  | .event, z => .event (UInt32.ofNat z.toNat)

theorem kind_ofNumber (kind : Kind) (z : Int) : (kind.ofNumber z).kind = kind := by
  cases kind <;> rfl

/-- Every number of the range of a kind has a value. -/
theorem number?_ofNumber {kind : Kind} {z : Int} (fits : kind.Fits z) : (kind.ofNumber z).number? = some z := by
  cases kind with
  | string => cases fits
  | bool =>
    have bit : z = 0 ∨ z = 1 := by simp only [Fits] at fits; omega
    rcases bit with rfl | rfl <;> rfl
  | byte =>
    obtain ⟨lower, upper⟩ := fits
    have same : (UInt8.ofNat z.toNat).toNat = z.toNat := UInt8.toNat_ofNat_of_lt' (by simp [UInt8.size]; omega)
    exact congrArg some (by omega)
  | uint16 =>
    obtain ⟨lower, upper⟩ := fits
    have same : (UInt16.ofNat z.toNat).toNat = z.toNat := UInt16.toNat_ofNat_of_lt' (by simp [UInt16.size]; omega)
    exact congrArg some (by omega)
  | int16 => exact congrArg some (Int16.toInt_ofInt_of_le fits.1 fits.2)
  | int32 => exact congrArg some (Int32.toInt_ofInt_of_le fits.1 fits.2)
  | int64 => exact congrArg some (Int64.toInt_ofInt_of_le fits.1 fits.2)
  | event =>
    obtain ⟨lower, upper⟩ := fits
    have same : (UInt32.ofNat z.toNat).toNat = z.toNat := UInt32.toNat_ofNat_of_lt' (by simp [UInt32.size]; omega)
    exact congrArg some (by omega)

end Kind

namespace Value

theorem fits_number {value : Value} {z : Int} (number : value.number? = some z) : value.kind.Fits z := by
  cases value with
  | string text => cases number
  | bool b => cases b <;> cases number <;> simp [kind, Kind.Fits]
  | byte n =>
    have bound := n.toNat_lt
    cases number
    simp only [kind, Kind.Fits]
    omega
  | uint16 n =>
    have bound := n.toNat_lt
    cases number
    simp only [kind, Kind.Fits]
    omega
  | int16 n =>
    cases number
    exact ⟨n.le_toInt, n.toInt_lt⟩
  | int32 n =>
    cases number
    exact ⟨n.le_toInt, n.toInt_lt⟩
  | int64 n =>
    cases number
    exact ⟨n.le_toInt, n.toInt_lt⟩
  | event bits =>
    have bound := bits.toNat_lt
    cases number
    simp only [kind, Kind.Fits]
    omega

/-- A value is the one of its kind for its number. -/
theorem eq_ofNumber {value : Value} {z : Int} (number : value.number? = some z) : value = value.kind.ofNumber z := by
  cases value with
  | string text => cases number
  | bool b => cases b <;> cases number <;> rfl
  | byte n | uint16 n | int16 n | int32 n | int64 n | event n =>
    cases number
    simp [kind, Kind.ofNumber]

end Value

/-- The byte at a place of the little-endian form is the digit at this place. -/
theorem getElem?_littleEndian {width place : Nat} (inside : place < width) (n : Nat) :
    (littleEndian width n)[place]? = some (UInt8.ofNat (n / 256 ^ place % 256)) := by
  induction width generalizing place n with
  | zero => omega
  | succ width ih =>
    cases place with
    | zero => simp [littleEndian]
    | succ place =>
      rw [littleEndian, List.getElem?_cons_succ, ih (by omega), Nat.pow_succ', Nat.div_div_eq_div_mul]

theorem ofLittleEndian_lt (bytes : Bytes) : ofLittleEndian bytes < 256 ^ bytes.length := by
  induction bytes with
  | nil => simp [ofLittleEndian]
  | cons b rest ih =>
    have bound := b.toNat_lt
    rw [ofLittleEndian, List.length_cons, Nat.pow_succ']
    omega

/-- The digits below a power do not depend on the multiples of the power. -/
theorem emod_pow_ediv_emod (z : Int) {width place : Nat} (inside : place < width) :
    z % 256 ^ width / 256 ^ place % 256 = z / 256 ^ place % 256 := by
  obtain ⟨more, rfl⟩ : ∃ more, width = place + (1 + more) := ⟨width - place - 1, by omega⟩
  have positive : (256 : Int) ^ place ≠ 0 := Int.ne_of_gt (Int.pow_pos (by decide))
  have power : (256 : Int) ^ (place + (1 + more)) = 256 ^ place * (256 * 256 ^ more) := by
    rw [Int.pow_add, Int.pow_add, Int.pow_one]
  have whole : z = z % 256 ^ (place + (1 + more)) +
      256 ^ place * (256 * (256 ^ more * (z / 256 ^ (place + (1 + more))))) := by
    have parts := Int.emod_add_mul_ediv z (256 ^ (place + (1 + more)))
    rw [power, Int.mul_assoc, Int.mul_assoc] at parts
    rw [power]
    exact parts.symm
  conv => rhs; rw [whole, Int.add_mul_ediv_left _ _ positive, Int.add_mul_emod_self_left]

/-- A signed number and its bits are the same up to multiples of the span. -/
theorem toInt_emod_two_pow {size : Nat} (bits : BitVec size) : bits.toInt % 2 ^ size = bits.toNat := by
  have bound : (bits.toNat : Int) < (2 ^ size : Nat) := Int.ofNat_lt.mpr bits.isLt
  have span : ((2 ^ size : Nat) : Int) = 2 ^ size := by simp
  rw [BitVec.toInt_eq_toNat_bmod, ← span, Int.bmod_emod, Int.emod_eq_of_lt (Int.natCast_nonneg _) bound]

/-- The raw form is the number in two's complement. -/
theorem Value.raw_eq_littleEndian {value : Value} {z : Int} (number : value.number? = some z) {width : Nat}
    (wide : value.kind.width = some width) : value.raw = littleEndian width (z % 256 ^ width).toNat := by
  cases value with
  | string text => cases number
  | bool b => cases b <;> cases number <;> cases wide <;> rfl
  | byte n =>
    have bound := n.toNat_lt
    cases number
    cases wide
    have same : ((n.toNat : Int) % 256 ^ 1).toNat = n.toNat := by omega
    rw [same]
    simp [raw, littleEndian, Nat.mod_eq_of_lt bound]
  | uint16 n =>
    have bound := n.toNat_lt
    cases number
    cases wide
    have same : ((n.toNat : Int) % 256 ^ 2).toNat = n.toNat := by omega
    rw [same, raw]
  | int16 n =>
    cases number
    cases wide
    have bits : n.toInt % 256 ^ 2 = n.toUInt16.toNat := toInt_emod_two_pow n.toBitVec
    rw [bits, Int.toNat_natCast, raw]
  | int32 n =>
    cases number
    cases wide
    have bits : n.toInt % 256 ^ 4 = n.toUInt32.toNat := toInt_emod_two_pow n.toBitVec
    rw [bits, Int.toNat_natCast, raw]
  | int64 n =>
    cases number
    cases wide
    have bits : n.toInt % 256 ^ 8 = n.toUInt64.toNat := toInt_emod_two_pow n.toBitVec
    rw [bits, Int.toNat_natCast, raw]
  | event bits =>
    have bound := bits.toNat_lt
    cases number
    cases wide
    have same : ((bits.toNat : Int) % 256 ^ 4).toNat = bits.toNat := by omega
    rw [same, raw]

/-- The byte at a place of the raw form is the digit of the number at this place. -/
theorem Value.raw_place {value : Value} {z : Int} (number : value.number? = some z) {place : Nat}
    (inside : place < value.raw.length) :
    ∃ b, value.raw[place]? = some b ∧ (b.toNat : Int) = z / 256 ^ place % 256 := by
  obtain ⟨width, wide⟩ : ∃ width, value.kind.width = some width := by
    cases value with
    | string text => cases number
    | _ => exact ⟨_, rfl⟩
  rw [length_raw wide] at inside
  have digit := emod_pow_ediv_emod z inside
  obtain ⟨n, low⟩ := Int.eq_ofNat_of_zero_le (Int.emod_nonneg z (Int.ne_of_gt (Int.pow_pos (n := 256) (m := width) (by decide))))
  rw [raw_eq_littleEndian number wide, low, Int.toNat_natCast, getElem?_littleEndian inside]
  have small : n / 256 ^ place % 256 < UInt8.size := Nat.mod_lt _ (by decide)
  refine ⟨_, rfl, ?_⟩
  rw [← digit, low, UInt8.toNat_ofNat_of_lt' small]
  simp

end LeafHub
