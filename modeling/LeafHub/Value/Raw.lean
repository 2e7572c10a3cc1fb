import LeafHub.Fault
import LeafHub.Text.Utf8
import LeafHub.Value.Basic

namespace LeafHub

/-- The low `width` bytes of a number, least significant first. -/
def littleEndian : Nat → Nat → Bytes
  | 0, _ => []
  | width + 1, n => UInt8.ofNat (n % 256) :: littleEndian width (n / 256)

/-- The number that little-endian bytes stand for. -/
def ofLittleEndian : Bytes → Nat
  | [] => 0
  | b :: rest => b.toNat + 256 * ofLittleEndian rest

@[simp] theorem length_littleEndian (width n : Nat) : (littleEndian width n).length = width := by
  induction width generalizing n with
  | zero => rfl
  | succ width ih => simp [littleEndian, ih]

/-- How many numbers there are of `width` bytes. -/
def span : Nat → Nat
  | 0 => 1
  | width + 1 => 256 * span width

theorem ofLittleEndian_littleEndian (width n : Nat) : ofLittleEndian (littleEndian width n) = n % span width := by
  induction width generalizing n with
  | zero => simp [littleEndian, ofLittleEndian, span, Nat.mod_one]
  | succ width ih =>
    simp only [littleEndian, ofLittleEndian, span, ih]
    rw [Nat.mod_mul]
    simp

theorem littleEndian_ofLittleEndian (bytes : Bytes) :
    littleEndian bytes.length (ofLittleEndian bytes) = bytes := by
  induction bytes with
  | nil => rfl
  | cons b rest ih =>
    have bound := b.toNat_lt
    have low : (b.toNat + 256 * ofLittleEndian rest) % 256 = b.toNat := by omega
    have high : (b.toNat + 256 * ofLittleEndian rest) / 256 = ofLittleEndian rest := by omega
    simp only [List.length_cons, ofLittleEndian, littleEndian, low, high, ih, UInt8.ofNat_toNat]

/-- The raw form of a value. -/
def Value.raw : Value → Bytes
  | .string text => Text.utf8 text
  | .bool b => [if b then 1 else 0]
  | .byte n => [n]
  | .uint16 n => littleEndian 2 n.toNat
  | .int16 n => littleEndian 2 n.toUInt16.toNat
  | .int32 n => littleEndian 4 n.toUInt32.toNat
  | .int64 n => littleEndian 8 n.toUInt64.toNat
  | .event bits => littleEndian 4 bits.toNat

/-- The bytes without a NUL at the end, if there is one; only one is dropped. -/
def dropTerminator (raw : Bytes) : Bytes :=
  if raw.getLast? = some 0 then raw.dropLast else raw

namespace Kind

/-- The value of a kind other than string that little-endian bytes stand for. -/
def scalarOfRaw (kind : Kind) (raw : Bytes) : Value :=
  let n := ofLittleEndian raw
  match kind with
  | .string => .string ""
  | .bool => .bool (n ≠ 0)
  | .byte => .byte (UInt8.ofNat n)
  | .uint16 => .uint16 (UInt16.ofNat n)
  | .int16 => .int16 (UInt16.ofNat n).toInt16
  | .int32 => .int32 (UInt32.ofNat n).toInt32
  | .int64 => .int64 (UInt64.ofNat n).toInt64
  | .event => .event (UInt32.ofNat n)

/-- Reads the raw form of a value of this kind. Every kind but string takes exactly its width; a string takes
any UTF-8, and a NUL after it is dropped. -/
def ofRaw (kind : Kind) (raw : Bytes) : Except Fault Value :=
  match kind.width with
  | some width =>
    if raw.length = width then .ok (kind.scalarOfRaw raw) else .error (.invalidLength width raw.length)
  | none => match Text.utf8? (dropTerminator raw) with
    | some text => .ok (.string text)
    | none => .error .invalidValue

theorem kind_scalarOfRaw (kind : Kind) (raw : Bytes) : (kind.scalarOfRaw raw).kind = kind := by
  cases kind <;> rfl

/-- Only strings have no width. -/
theorem width_eq_none_iff {kind : Kind} : kind.width = none ↔ kind = .string := by
  cases kind <;> simp [width]

theorem kind_ofRaw {kind : Kind} {raw : Bytes} {value : Value} (read : kind.ofRaw raw = .ok value) :
    value.kind = kind := by
  unfold ofRaw at read
  split at read
  · split at read
    · cases read
      exact kind_scalarOfRaw kind raw
    · cases read
  · rename_i narrow
    split at read
    · cases read
      exact (width_eq_none_iff.mp narrow).symm
    · cases read

end Kind

theorem Value.length_raw {value : Value} {width : Nat} (wide : value.kind.width = some width) :
    value.raw.length = width := by
  cases value <;> cases wide <;> simp [Value.raw]

end LeafHub
