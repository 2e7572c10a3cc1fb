import LeafHub.Config.Basic
import LeafHub.Text.Utf8

namespace LeafHub.Config

/-- A number in groups of seven bits, least significant first; every group but the last carries the flag 128. -/
def varint (n : Nat) : Bytes :=
  if n < 128 then [UInt8.ofNat n] else UInt8.ofNat (n % 128 + 128) :: varint (n / 128)
termination_by n

/-- Reads a varint of at most `bits` bits from the group at `shift` on. A group may not reach past the last bit,
and there are no more groups than the bits need; groups of zeros at the end are accepted. -/
def varintFrom? (bits : Nat) : Nat → Bytes → Option (Nat × Bytes)
  | _, [] => none
  | shift, b :: rest =>
    if b.toNat < 128 then
      if b.toNat < 1 <<< (bits - shift) then some (b.toNat <<< shift, rest) else none
    else if shift + 7 < bits then
      match varintFrom? bits (shift + 7) rest with
      | some (n, tail) => some ((b.toNat - 128) <<< shift + n, tail)
      | none => none
    else none

/-- Reads a varint of at most `bits` bits. -/
def varint? (bits : Nat) (bytes : Bytes) : Option (Nat × Bytes) :=
  varintFrom? bits 0 bytes

/-- A text with its byte length in front. -/
def textBlob (text : String) : Bytes :=
  varint text.utf8ByteSize ++ Text.utf8 text

/-- Reads a text of at most `limit` bytes. -/
def textBlob? (limit : Nat) (bytes : Bytes) : Option (Bounded limit × Bytes) := do
  let (size, rest) ← varint? 64 bytes
  if rest.length < size then none
  else
    let text ← Text.utf8? (rest.take size)
    let bounded ← Bounded.of? text
    some (bounded, rest.drop size)

/-- The binary form: the fields in order, numbers wider than a byte as varints. -/
def blob (config : Config) : Bytes :=
  varint config.registryLockMs.toNat ++ varint config.valueLockMs.toNat ++ textBlob config.nameBase.text ++
    textBlob config.settingsNamespace.text ++ varint config.stringWriteMax.toNat ++
    varint config.workerStackKb.toNat ++ [config.workerPriority]

/-- Reads the binary form. Whatever follows the last field is ignored. -/
def ofBlob? (bytes : Bytes) : Option Config := do
  let (registryLock, bytes) ← varint? 32 bytes
  let (valueLock, bytes) ← varint? 32 bytes
  let (nameBase, bytes) ← textBlob? 12 bytes
  let (settingsNamespace, bytes) ← textBlob? 15 bytes
  let (stringWriteMax, bytes) ← varint? 16 bytes
  let (workerStack, bytes) ← varint? 16 bytes
  let workerPriority ← bytes.head?
  some {
    registryLockMs := UInt32.ofNat registryLock
    valueLockMs := UInt32.ofNat valueLock
    nameBase
    settingsNamespace
    stringWriteMax := UInt16.ofNat stringWriteMax
    workerStackKb := UInt16.ofNat workerStack
    workerPriority }

end LeafHub.Config
