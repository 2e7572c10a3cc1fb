import LeafHub.EventFlags
import LeafHub.Text.Bounded
import LeafHub.Value.Raw
import LeafHub.Value.Text
import LeafHub.WorkQueue

namespace LeafHub

/-- The number of a cell. -/
abbrev CellId := Nat

/-- What a cell holds: a string as its bytes with a NUL after them, and an event as the number of its event object,
which the cell keeps for life. -/
inductive Payload where
  /-- The bytes of the text and the NUL after them. -/
  | string (stored : Bytes)
  | bool (b : Bool)
  | byte (n : UInt8)
  | uint16 (n : UInt16)
  | int16 (n : Int16)
  | int32 (n : Int32)
  | int64 (n : Int64)
  | event (flags : FlagsId)
  deriving DecidableEq

/-- The kind is settled when the cell is made. -/
structure Cell where
  name : String
  kind : Kind
  payload : Payload
  /-- The work item that is submitted after every change. -/
  subscriber : Option ItemId
  deriving DecidableEq

instance : Inhabited Cell := ⟨⟨"", .bool, .bool false, none⟩⟩

namespace Cell

/-- The longest name, in bytes. -/
def nameLimit : Nat := 32

/-- A name cut down to its limit. -/
def boundedName (name : String) : String :=
  String.ofList (Text.clip nameLimit name.toList)

/-- The name of a cell that belongs to a leaf. -/
def prefixedName (leaf name : String) : String :=
  leaf ++ "_" ++ name

/-- How a text is kept. -/
def terminated (text : String) : Bytes :=
  Text.utf8 text ++ [0]

end Cell

namespace Payload

/-- The payload of a value. The bits of an event are kept in its event object, here `flags`. -/
def ofValue (flags : FlagsId) : Value → Payload
  | .string text => .string (Cell.terminated text)
  | .bool b => .bool b
  | .byte n => .byte n
  | .uint16 n => .uint16 n
  | .int16 n => .int16 n
  | .int32 n => .int32 n
  | .int64 n => .int64 n
  | .event _ => .event flags

/-- The value of a payload; `bits` are those of its event object. Bytes that are no text read as the replacement
character, which no operation leaves behind. -/
def value (bits : UInt32) : Payload → Value
  | .string stored => .string ((Text.utf8? stored.dropLast).getD "\uFFFD")
  | .bool b => .bool b
  | .byte n => .byte n
  | .uint16 n => .uint16 n
  | .int16 n => .int16 n
  | .int32 n => .int32 n
  | .int64 n => .int64 n
  | .event _ => .event bits

/-- The event object of an event payload. -/
def flags? : Payload → Option FlagsId
  | .event flags => some flags
  | _ => none

/-- The bytes that a string payload owns, the NUL among them. -/
def allocated? : Payload → Option Nat
  | .string stored => some stored.length
  | _ => none

theorem value_ofValue (flags : FlagsId) {bits : UInt32} {v : Value} (current : ∀ b, v = .event b → bits = b) :
    (ofValue flags v).value bits = v := by
  cases v with
  | string text => simp [ofValue, value, Cell.terminated]
  | event b => rw [current b rfl]; rfl
  | _ => rfl

end Payload

end LeafHub
