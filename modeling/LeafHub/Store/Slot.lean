import LeafHub.Text.Utf8

namespace LeafHub.Slot

/-- The longest namespace and the longest key that is kept under its own name, in bytes. -/
def nameLimit : Nat := 15

/-- The longest key, in bytes. -/
def keyLimit : Nat := 32

/-- Hashed slot names start with it. -/
def mark : Char := '#'

def validNamespace (ns : String) : Bool :=
  0 < ns.utf8ByteSize && ns.utf8ByteSize ≤ nameLimit

def validKey (key : String) : Bool :=
  0 < key.utf8ByteSize && key.utf8ByteSize ≤ keyLimit

/-- Whether a key is kept under a hash: it is too long for the name of a slot, or starts with the mark. -/
def isHashed (key : String) : Bool :=
  nameLimit < key.utf8ByteSize || key.toList.head? = some mark

/-- The 64-bit FNV-1a hash. -/
def fnv1a (bytes : Bytes) : UInt64 :=
  bytes.foldl (fun hash b => (hash ^^^ b.toUInt64) * 0x100000001b3) 0xcbf29ce484222325

/-- A slot name holds 56 bits of a hash. -/
def hashRange : Nat := 0x100000000000000

/-- The name of the slot of a key: the key, or the mark and the low 56 bits of its hash. -/
def nameOf (key : String) : String :=
  if isHashed key then
    String.ofList [mark] ++ Text.hexPadded 14 ((fnv1a (Text.utf8 key)).toNat % hashRange)
  else key

/-- What is kept for a key: the value, in a hashed slot after the length of the key and the key. -/
def pack (key : String) (value : Bytes) : Bytes :=
  if isHashed key then UInt8.ofNat key.utf8ByteSize :: (Text.utf8 key ++ value) else value

/-- The key and the value in the blob of a hashed slot. -/
def unpack? : Bytes → Option (String × Bytes)
  | [] => none
  | size :: rest =>
    if rest.length < size.toNat then none
    else (Text.utf8? (rest.take size.toNat)).map fun key => (key, rest.drop size.toNat)

/-- The value of a key in the blob of its slot; none if the slot belongs to another key. -/
def valueOf? (key : String) (blob : Bytes) : Option Bytes :=
  if isHashed key then
    match unpack? blob with
    | some (owner, value) => if owner = key then some value else none
    | none => none
  else some blob

theorem valueOf?_pack {key : String} (valid : validKey key = true) (value : Bytes) :
    valueOf? key (pack key value) = some value := by
  have bound : key.utf8ByteSize ≤ keyLimit := of_decide_eq_true (Bool.and_eq_true_iff.mp valid).2
  unfold keyLimit at bound
  unfold valueOf? pack
  split
  · have small : key.utf8ByteSize % 256 = key.utf8ByteSize := Nat.mod_eq_of_lt (by omega)
    have size : (UInt8.ofNat key.utf8ByteSize).toNat = (Text.utf8 key).length := by
      simp [small]
    have room : ¬ (Text.utf8 key ++ value).length < (Text.utf8 key).length := by
      simp only [List.length_append]; omega
    simp only [unpack?, size, if_neg room, List.take_left', List.drop_left', Text.utf8?_utf8, Option.map_some,
      if_true]
  · rfl

end LeafHub.Slot
